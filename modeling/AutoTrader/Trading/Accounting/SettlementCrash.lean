import AutoTrader.Trading.Accounting.Settlement

/-!
# Settling survives a crash

A settlement writes to the store and to the position in two steps.  Here are the runs in
which the process stops between them, or before both, and is started again.

* `settleToSave_of_ok`, `detachStep_run`, `saveStep_run` — what a call does.
* `Settling` — a store before and after the transfer, and the restarts over both.
* `Pending`, `Settled` — the two states a process can be in between attempts.
* `settle_crash_safe` — whatever attempts come first, one more call ends in the same state.
-/

namespace Trading

open Arithmetic

variable {ctx : DecimalContext}

/-! ## Attempts -/

section Attempts

variable {digest : List (Trade ctx) → String} {trades : List (Trade ctx)} {stepSize : ℚ}
  {process next settled : SettlementProcess ctx} {restored : Restored ctx}

/-- A call whose replay raises. -/
theorem settleToSave_of_error {error : TradingError}
    (h : process.store.restored digest trades stepSize = .error error) :
    settleToSave digest trades stepSize process = .error error process := by
  unfold settleToSave restoreStep
  simp only [Stateful.bind_run, Stateful.get_run, h, Stateful.raising_error]

/-- A call goes by its replay and its decision. -/
theorem settleToSave_of_ok (h : process.store.restored digest trades stepSize = .ok restored) :
    settleToSave digest trades stepSize process =
      match decideSettlement digest trades stepSize process.position restored with
      | .ok decision => carryOut decision { process with settlement := restored.settlement }
      | .error error => .error error { process with settlement := restored.settlement } := by
  unfold settleToSave restoreStep
  simp only [Stateful.bind_run, Stateful.get_run, h, Stateful.raising_ok, Stateful.modify_run,
    Stateful.pure_run]
  cases decideSettlement digest trades stepSize process.position restored <;> rfl

theorem detachStep_run (entry : ResidualTransfer) :
    detachStep entry process =
      match process.position.detachResidual entry.quantity entry.costBasis entry.stepSize with
      | .ok position => .ok ⟨⟩ { process with position }
      | .error error => .error error process := by
  unfold detachStep
  simp only [Stateful.bind_run, Stateful.get_run]
  cases process.position.detachResidual entry.quantity entry.costBasis entry.stepSize <;> rfl

theorem saveStep_run (entry : ResidualTransfer) :
    saveStep entry process =
      match process.store.save process.settlement.transfers entry with
      | .ok store => .ok ⟨⟩ { process with store }
      | .error error => .error error process := by
  unfold saveStep
  simp only [Stateful.bind_run, Stateful.get_run]
  cases process.store.save process.settlement.transfers entry <;> rfl

/-- A call that raises before a transfer is stored leaves position and store alone. -/
theorem settleToSave_error {error : TradingError}
    (h : settleToSave digest trades stepSize process = .error error next) :
    next.position = process.position ∧ next.store = process.store := by
  cases hrestored : process.store.restored digest trades stepSize with
  | error error' =>
      rw [settleToSave_of_error hrestored] at h
      cases h
      exact ⟨rfl, rfl⟩
  | ok restored =>
      rw [settleToSave_of_ok hrestored] at h
      cases hdecision : decideSettlement digest trades stepSize process.position restored with
      | error error' =>
          rw [hdecision] at h
          cases h
          exact ⟨rfl, rfl⟩
      | ok decision =>
          rw [hdecision] at h
          cases decision with
          | nothing => cases h
          | detach entry =>
              simp only [carryOut, Stateful.bind_run, detachStep_run] at h
              cases hdetach : process.position.detachResidual entry.quantity entry.costBasis
                  entry.stepSize with
              | ok position =>
                  rw [hdetach] at h
                  cases h
              | error error' =>
                  rw [hdetach] at h
                  cases h
                  exact ⟨rfl, rfl⟩
          | transfer entry =>
              simp only [carryOut, Stateful.bind_run, saveStep_run] at h
              cases hsave : process.store.save restored.settlement.transfers entry with
              | ok store =>
                  rw [hsave] at h
                  cases h
              | error error' =>
                  rw [hsave] at h
                  cases h
                  exact ⟨rfl, rfl⟩

/-- What a decision to store a transfer is based on. -/
theorem decideSettlement_transfer {position : Position ctx} {entry : ResidualTransfer}
    (h : decideSettlement digest trades stepSize position restored = .ok (.transfer entry)) :
    restored.eligible = true ∧
      (∀ last ∈ restored.settlement.transfers.getLast?, last.historyCount ≠ trades.length) ∧
      position.state.quantity = restored.position.state.quantity ∧
      position.state.costBasis = restored.position.state.costBasis ∧
      ResidualTransfer.create trades.length (digest trades) position.state.quantity
        position.state.costBasis stepSize = .ok entry := by
  have hnew : ∀ (hnot : newTransfer digest trades stepSize position restored =
      .ok (.transfer entry)), restored.eligible = true ∧
        position.state.quantity = restored.position.state.quantity ∧
        position.state.costBasis = restored.position.state.costBasis ∧
        ResidualTransfer.create trades.length (digest trades) position.state.quantity
          position.state.costBasis stepSize = .ok entry := by
    intro hnot
    unfold newTransfer at hnot
    split at hnot
    · rename_i hdue
      obtain ⟨⟨hquantity, hcost⟩, hnot⟩ := Except.require_bind_eq_ok_iff.mp hnot
      obtain ⟨created, hcreated, hnot⟩ := Except.bind_eq_ok_iff.mp hnot
      cases hnot
      exact ⟨hdue.1, hquantity, hcost, hcreated⟩
    · cases hnot
  unfold decideSettlement at h
  cases hlast : restored.settlement.transfers.getLast? with
  | none =>
      rw [hlast] at h
      obtain ⟨heligible, hrest⟩ := hnew h
      exact ⟨heligible, by simp, hrest⟩
  | some last =>
      rw [hlast] at h
      simp only at h
      by_cases hcount : last.historyCount = trades.length
      · rw [if_pos hcount] at h
        split at h <;> cases h
      · rw [if_neg hcount] at h
        obtain ⟨heligible, hrest⟩ := hnew h
        refine ⟨heligible, ?_, hrest⟩
        intro other hother
        cases hother
        exact hcount

/-- A stored transfer is carried out when it is the history's own. -/
theorem decideSettlement_detach {position : Position ctx} {entry : ResidualTransfer}
    (h : decideSettlement digest trades stepSize position restored = .ok (.detach entry)) :
    restored.settlement.transfers.getLast? = some entry ∧ entry.historyCount = trades.length := by
  have hnew : newTransfer digest trades stepSize position restored ≠ .ok (.detach entry) := by
    intro hnot
    unfold newTransfer at hnot
    split at hnot
    · obtain ⟨-, hnot⟩ := Except.require_bind_eq_ok_iff.mp hnot
      obtain ⟨created, -, hnot⟩ := Except.bind_eq_ok_iff.mp hnot
      cases hnot
    · cases hnot
  unfold decideSettlement at h
  cases hlast : restored.settlement.transfers.getLast? with
  | none =>
      rw [hlast] at h
      exact absurd h hnew
  | some last =>
      rw [hlast] at h
      simp only at h
      by_cases hcount : last.historyCount = trades.length
      · rw [if_pos hcount] at h
        split at h
        · cases h
          exact ⟨rfl, hcount⟩
        · cases h
      · rw [if_neg hcount] at h
        exact absurd h hnew

/-- A closed position has nothing to settle once the history's transfer is stored. -/
theorem decideSettlement_closed {position : Position ctx} {entry : ResidualTransfer}
    (hlast : restored.settlement.transfers.getLast? = some entry)
    (hcount : entry.historyCount = trades.length) (hclosed : position.state.quantity = 0) :
    decideSettlement digest trades stepSize position restored = .ok .nothing := by
  unfold decideSettlement
  simp [hlast, hcount, hclosed]

/-- A decision depends on the position's quantity and cost only. -/
theorem decideSettlement_congr {position other : Position ctx}
    (hquantity : other.state.quantity = position.state.quantity)
    (hcost : other.state.costBasis = position.state.costBasis) :
    decideSettlement digest trades stepSize other restored =
      decideSettlement digest trades stepSize position restored := by
  simp only [decideSettlement, newTransfer, hquantity, hcost]

/-! ### Before and after the transfer -/

/-- A history with its store before and after the transfer: both restart, and the second
one to a closed position. -/
structure Settling (digest : List (Trade ctx) → String) (trades : List (Trade ctx)) (stepSize : ℚ)
    (before after : Restored ctx) (store stored : ResidualStore) : Prop where
  before_eq : store.restored digest trades stepSize = .ok before
  after_eq : stored.restored digest trades stepSize = .ok after
  closed : after.position = ⟨closedState ctx before.position.state.exitReason, false⟩
  transfers : after.settlement.transfers = stored.transfers
  consumptions :
    after.settlement.externalConsumptions = before.settlement.externalConsumptions
  last : ∃ entry, stored.transfers.getLast? = some entry ∧ entry.historyCount = trades.length

/-- A process that is done: what it holds in memory is what the store says. -/
structure Settled (live : Position ctx) (before : Restored ctx) (stored : ResidualStore)
    (process : SettlementProcess ctx) : Prop where
  store_eq : process.store = stored
  position : process.position = ⟨closedState ctx live.state.exitReason, false⟩ ∨
    process.position = ⟨closedState ctx before.position.state.exitReason, false⟩
  transfers : process.settlement.transfers = stored.transfers
  consumptions :
    process.settlement.externalConsumptions = before.settlement.externalConsumptions

/-- A position that still has the rest. -/
structure Ready (live : Position ctx) (before : Restored ctx) (position : Position ctx) :
    Prop where
  quantity : position.state.quantity = live.state.quantity
  costBasis : position.state.costBasis = live.state.costBasis
  legacy : position.legacyBaseFeeHistoryOpen = false
  exitReason : position.state.exitReason = live.state.exitReason ∨
    position.state.exitReason = before.position.state.exitReason

variable {live : Position ctx} {before after : Restored ctx} {store stored : ResidualStore}

/-- A restart over the store with the transfer is done. -/
theorem Settling.restart (h : Settling digest trades stepSize before after store stored)
    (live : Position ctx) :
    ∃ next, restartProcess digest trades stepSize stored = .ok next ∧
      Settled live before stored next := by
  refine ⟨{ position := after.position, settlement := after.settlement, store := stored }, ?_,
    rfl, .inr h.closed, h.transfers, h.consumptions⟩
  unfold restartProcess
  rw [h.after_eq, Except.ok_bind]

/-- Further calls of a process that is done change nothing. -/
theorem Settled.settleToSave (hs : Settling digest trades stepSize before after store stored)
    (h : Settled live before stored process) :
    ∃ next, Trading.settleToSave digest trades stepSize process = .ok (.done false) next ∧
      Settled live before stored next := by
  obtain ⟨entry, hlast, hcount⟩ := hs.last
  have hclosed : process.position.state.quantity = 0 := by
    rcases h.position with hposition | hposition <;> rw [hposition] <;> rfl
  refine ⟨{ process with settlement := after.settlement }, ?_,
    h.store_eq, h.position, hs.transfers, hs.consumptions⟩
  rw [settleToSave_of_ok (by rw [h.store_eq]; exact hs.after_eq),
    decideSettlement_closed (by rw [hs.transfers]; exact hlast) hcount hclosed]
  rfl

/-- Every attempt leaves a process that is done, done. -/
theorem Settled.run (hs : Settling digest trades stepSize before after store stored)
    (h : Settled live before stored process) (attempt : SettlementAttempt) :
    ∃ next, attempt.run digest trades stepSize process = .ok next ∧
      Settled live before stored next := by
  obtain ⟨next, hrun, hnext⟩ := h.settleToSave hs
  cases attempt with
  | complete =>
      refine ⟨next, ?_, hnext⟩
      simp only [SettlementAttempt.run, settle, Stateful.bind_run, hrun, settleStored,
        Stateful.pure_run]
  | crashAfterSave =>
      refine ⟨next, ?_, hnext⟩
      simp only [SettlementAttempt.run, hrun]
  | crashBeforeSave =>
      simp only [SettlementAttempt.run, h.store_eq]
      exact hs.restart live

/-- A ready process detaches the rest the live position had. -/
theorem Ready.detachStep (h : Ready live before process.position) {entry : ResidualTransfer}
    (hquantity : live.state.quantity = entry.quantity)
    (hcost : live.state.costBasis = entry.costBasis) (hstored : process.store = stored)
    (htransfers : process.settlement.transfers = stored.transfers)
    (hconsumptions :
      process.settlement.externalConsumptions = before.settlement.externalConsumptions) :
    ∃ next, Trading.detachStep entry process = .ok ⟨⟩ next ∧ Settled live before stored next := by
  have hdetach : process.position.detachResidual entry.quantity entry.costBasis entry.stepSize =
      .ok { process.position with
        state := closedState ctx process.position.state.exitReason } := by
    rw [Position.detachResidual_eq_ok_iff]
    exact ⟨entry.values_pos, ⟨entry.below_step, h.quantity.trans hquantity,
      h.costBasis.trans hcost⟩, h.legacy, rfl⟩
  refine ⟨{ process with position := { process.position with
    state := closedState ctx process.position.state.exitReason } }, ?_, hstored, ?_, htransfers,
    hconsumptions⟩
  · rw [detachStep_run, hdetach]
  · simp only [h.legacy]
    rcases h.exitReason with hreason | hreason
    · exact .inl (by rw [hreason])
    · exact .inr (by rw [hreason])

/-- A process over the store before the transfer. -/
def Pending (live : Position ctx) (before : Restored ctx) (store : ResidualStore)
    (process : SettlementProcess ctx) : Prop :=
  process.store = store ∧ Ready live before process.position

/-- An attempt with the transfer already stored: the process is done after it. -/
theorem Pending.run_detach (hs : Settling digest trades stepSize before after store store)
    {entry : ResidualTransfer} (hquantity : live.state.quantity = entry.quantity)
    (hcost : live.state.costBasis = entry.costBasis)
    (hdecision : decideSettlement digest trades stepSize live before = .ok (.detach entry))
    (h : Pending live before store process) (attempt : SettlementAttempt) :
    ∃ next, attempt.run digest trades stepSize process = .ok next ∧
      Settled live before store next := by
  obtain ⟨hstore, hready⟩ := h
  obtain ⟨-, -, -, -, -, -, htransfers, -⟩ := ResidualStore.restored_eq_ok hs.before_eq
  have hprepared : Ready live before
      { process with settlement := before.settlement }.position := hready
  obtain ⟨next, hrun, hnext⟩ := hprepared.detachStep hquantity hcost hstore htransfers rfl
  have hsave : settleToSave digest trades stepSize process = .ok (.done true) next := by
    rw [settleToSave_of_ok (by rw [hstore]; exact hs.before_eq),
      decideSettlement_congr hready.quantity hready.costBasis, hdecision]
    simp only [carryOut, Stateful.bind_run, hrun, Stateful.pure_run]
  cases attempt with
  | complete =>
      refine ⟨next, ?_, hnext⟩
      simp only [SettlementAttempt.run, settle, Stateful.bind_run, hsave, settleStored,
        Stateful.pure_run]
  | crashAfterSave =>
      refine ⟨next, ?_, hnext⟩
      simp only [SettlementAttempt.run, hsave]
  | crashBeforeSave =>
      simp only [SettlementAttempt.run, hstore]
      exact hs.restart live

/-- An attempt that stores the transfer is done; one that stops before leaves the rest in
the position of the next process. -/
theorem Pending.run_transfer (hs : Settling digest trades stepSize before after store stored)
    {entry : ResidualTransfer} (hquantity : live.state.quantity = entry.quantity)
    (hcost : live.state.costBasis = entry.costBasis)
    (hdecision : decideSettlement digest trades stepSize live before = .ok (.transfer entry))
    (hsaved : store.save before.settlement.transfers entry = .ok stored)
    (h : Pending live before store process) (attempt : SettlementAttempt) :
    ∃ next, attempt.run digest trades stepSize process = .ok next ∧
      (Settled live before stored next ∨
        attempt = .crashBeforeSave ∧ Pending live before store next) := by
  obtain ⟨hstore, hready⟩ := h
  obtain ⟨-, hstoredEq, -⟩ := ResidualStore.save_eq_ok hsaved
  obtain ⟨last, -, -, hlegacy, hposition, -, htransfers, -⟩ :=
    ResidualStore.restored_eq_ok hs.before_eq
  have hsave : settleToSave digest trades stepSize process =
      .ok (.saved entry) { process with settlement := before.settlement, store := stored } := by
    rw [settleToSave_of_ok (by rw [hstore]; exact hs.before_eq),
      decideSettlement_congr hready.quantity hready.costBasis, hdecision]
    simp only [carryOut, Stateful.bind_run, saveStep_run, hstore, hsaved, Stateful.pure_run]
  cases attempt with
  | complete =>
      have hprepared : Ready live before { process with
          settlement := { before.settlement with
            transfers := before.settlement.transfers ++ [entry] }
          store := stored }.position := hready
      obtain ⟨next, hrun, hnext⟩ := hprepared.detachStep hquantity hcost rfl hstoredEq.symm rfl
      refine ⟨next, ?_, .inl hnext⟩
      simp only [SettlementAttempt.run, settle, Stateful.bind_run, hsave, settleStored,
        Stateful.modify_run, hrun, Stateful.pure_run]
  | crashAfterSave =>
      obtain ⟨next, hrun, hnext⟩ := hs.restart live
      refine ⟨next, ?_, .inl hnext⟩
      simp only [SettlementAttempt.run, hsave, hrun]
  | crashBeforeSave =>
      obtain ⟨-, -, hsame, hsameCost, -⟩ := decideSettlement_transfer hdecision
      refine ⟨{ position := before.position, settlement := before.settlement, store }, ?_,
        .inr ⟨rfl, rfl, ?_⟩⟩
      · simp only [SettlementAttempt.run, restartProcess, hstore, hs.before_eq, Except.ok_bind]
      · exact ⟨hsame.symm, hsameCost.symm, by rw [hposition]; exact hlegacy, .inr rfl⟩

/-- One more complete attempt is enough after any others. -/
theorem runAttempts_complete {Waits Done : SettlementProcess ctx → Prop}
    (hwaits : ∀ process, Waits process → ∀ attempt : SettlementAttempt, ∃ next,
      attempt.run digest trades stepSize process = .ok next ∧
        (Done next ∨ attempt = .crashBeforeSave ∧ Waits next))
    (hdone : ∀ process, Done process → ∀ attempt : SettlementAttempt, ∃ next,
      attempt.run digest trades stepSize process = .ok next ∧ Done next)
    (attempts : List SettlementAttempt) (hstart : Waits process ∨ Done process) :
    ∃ final, runAttempts digest trades stepSize process (attempts ++ [.complete]) = .ok final ∧
      Done final := by
  induction attempts generalizing process with
  | nil =>
      have hlast : ∃ final, SettlementAttempt.run digest trades stepSize process .complete =
          .ok final ∧ Done final := by
        rcases hstart with hstart | hstart
        · obtain ⟨next, hrun, hnext | ⟨hattempt, -⟩⟩ := hwaits process hstart .complete
          · exact ⟨next, hrun, hnext⟩
          · cases hattempt
        · exact hdone process hstart .complete
      obtain ⟨final, hrun, hfinal⟩ := hlast
      refine ⟨final, ?_, hfinal⟩
      simp only [runAttempts, List.nil_append, List.foldlM_cons, hrun, Except.ok_bind,
        List.foldlM_nil]
      rfl
  | cons attempt attempts ih =>
      have hnext : ∃ next, attempt.run digest trades stepSize process = .ok next ∧
          (Waits next ∨ Done next) := by
        rcases hstart with hstart | hstart
        · obtain ⟨next, hrun, hnext | ⟨-, hnext⟩⟩ := hwaits process hstart attempt
          · exact ⟨next, hrun, .inr hnext⟩
          · exact ⟨next, hrun, .inl hnext⟩
        · obtain ⟨next, hrun, hnext⟩ := hdone process hstart attempt
          exact ⟨next, hrun, .inr hnext⟩
      obtain ⟨next, hrun, hnext⟩ := hnext
      obtain ⟨final, hfinal, hdoneFinal⟩ := ih hnext
      refine ⟨final, ?_, hdoneFinal⟩
      simp only [runAttempts, List.cons_append, List.foldlM_cons, hrun, Except.ok_bind]
      exact hfinal

/-! ### Crash safety -/

/-- What an interrupted settlement has in common with an uninterrupted one. -/
structure Converged (digest : List (Trade ctx) → String) (trades : List (Trade ctx))
    (stepSize : ℚ) (process settled final : SettlementProcess ctx) : Prop where
  store : final.store = settled.store
  closed : final.position.state = closedState ctx final.position.state.exitReason
  legacy : final.position.legacyBaseFeeHistoryOpen = settled.position.legacyBaseFeeHistoryOpen
  totals : final.settlement.totals ctx = settled.settlement.totals ctx
  /-- A restart knows the exit reason of the last sale from the history. -/
  position : (∀ restored, process.store.restored digest trades stepSize = .ok restored →
    restored.position.state.exitReason = process.position.state.exitReason) →
      final.position = settled.position

/-- Two processes that are done with the same transfer agree. -/
theorem Settled.converged (hs : Settling digest trades stepSize before after process.store stored)
    (hsettled : Settled process.position before stored settled)
    (hnext : Settled process.position before stored next) :
    Converged digest trades stepSize process settled next := by
  refine ⟨hnext.store_eq.trans hsettled.store_eq.symm, ?_, ?_, ?_, ?_⟩
  · rcases hnext.position with h | h <;> rw [h] <;> rfl
  · rcases hnext.position with h | h <;> rcases hsettled.position with h' | h' <;> rw [h, h']
  · simp only [ResidualSettlement.totals, ResidualSettlement.events, hnext.transfers,
      hnext.consumptions, hsettled.transfers, hsettled.consumptions]
  · intro hreason
    have hsame := hreason before hs.before_eq
    rcases hnext.position with h | h <;> rcases hsettled.position with h' | h' <;>
      rw [h, h'] <;> simp only [hsame]

/-- What a call that settled has done to the store. -/
def OneTransfer (trades : List (Trade ctx)) (store stored : ResidualStore) : Prop :=
  (∃ entry : ResidualTransfer, entry.historyCount = trades.length ∧
    (∀ other ∈ store.transfers, other.historyCount ≠ trades.length) ∧
    stored.transfers = store.transfers ++ [entry]) ∨
  (stored = store ∧ ∃ entry ∈ store.transfers, entry.historyCount = trades.length)

/-- All attempts from the state before a call lead to the state after it. -/
def Attempted (digest : List (Trade ctx) → String) (trades : List (Trade ctx)) (stepSize : ℚ)
    (process settled : SettlementProcess ctx) (before after : Restored ctx) : Prop :=
  Settling digest trades stepSize before after process.store settled.store ∧
    Settled process.position before settled.store settled ∧
    OneTransfer trades process.store settled.store ∧
    ∀ attempts, ∃ final,
      runAttempts digest trades stepSize process (attempts ++ [.complete]) = .ok final ∧
        Settled process.position before settled.store final

/-- The position a rest can be detached from is ready. -/
theorem ready_of_detachStep (before : Restored ctx) {entry : ResidualTransfer}
    (h : detachStep entry process = .ok ⟨⟩ next) :
    process.position.state.quantity = entry.quantity ∧
      process.position.state.costBasis = entry.costBasis ∧
      Ready process.position before process.position := by
  rw [detachStep_run] at h
  cases hdetach : process.position.detachResidual entry.quantity entry.costBasis entry.stepSize with
  | error error =>
      rw [hdetach] at h
      cases h
  | ok position =>
      obtain ⟨-, ⟨-, hquantity, hcost⟩, hlegacy, -⟩ :=
        Position.detachResidual_eq_ok_iff.mp hdetach
      exact ⟨hquantity, hcost, rfl, rfl, hlegacy, .inl rfl⟩

/-- A call that carries out a stored transfer. -/
theorem attempted_detach {entry : ResidualTransfer}
    (hbefore : process.store.restored digest trades stepSize = .ok before)
    (hdecision : decideSettlement digest trades stepSize process.position before =
      .ok (.detach entry))
    (h : detachStep entry { process with settlement := before.settlement } = .ok ⟨⟩ settled) :
    Attempted digest trades stepSize process settled before before := by
  obtain ⟨last, -, -, hlegacy, hposition, -, htransfers, -⟩ := ResidualStore.restored_eq_ok hbefore
  obtain ⟨hlast, hcount⟩ := decideSettlement_detach hdecision
  rw [htransfers] at hlast
  have hmem : entry ∈ process.store.transfers := List.mem_of_getLast? hlast
  have hclosed := ResidualStore.restored_closed hbefore hmem hcount
  obtain ⟨hquantity, hcost, hready⟩ := ready_of_detachStep before h
  have hstore : settled.store = process.store := by
    rw [detachStep_run] at h
    split at h
    · cases h
      rfl
    · cases h
  have hs : Settling digest trades stepSize before before process.store process.store := by
    refine ⟨hbefore, hbefore, ?_, htransfers, rfl, entry, hlast, hcount⟩
    rw [← hclosed, hposition, ← hlegacy]
  have hsettled : Settled process.position before process.store settled := by
    obtain ⟨next, hrun, hnext⟩ := hready.detachStep hquantity hcost rfl htransfers rfl
    rw [h] at hrun
    cases hrun
    exact hnext
  have hwaits : ∀ waiting, Pending process.position before process.store waiting →
      ∀ attempt : SettlementAttempt, ∃ next, attempt.run digest trades stepSize waiting = .ok next ∧
        (Settled process.position before process.store next ∨
          attempt = .crashBeforeSave ∧ Pending process.position before process.store next) := by
    intro waiting hwaiting attempt
    obtain ⟨next, hrun, hnext⟩ := hwaiting.run_detach hs hquantity hcost hdecision attempt
    exact ⟨next, hrun, .inl hnext⟩
  unfold Attempted
  rw [hstore]
  exact ⟨hs, hsettled, .inr ⟨rfl, entry, hmem, hcount⟩, fun attempts =>
    runAttempts_complete hwaits (fun _ hdone => hdone.run hs) attempts (.inl ⟨rfl, hready⟩)⟩

/-- A call that stores a new transfer and carries it out. -/
theorem attempted_transfer {entry : ResidualTransfer}
    (hbefore : process.store.restored digest trades stepSize = .ok before)
    (hdecision : decideSettlement digest trades stepSize process.position before =
      .ok (.transfer entry))
    (hsaved : process.store.save before.settlement.transfers entry = .ok stored)
    (h : detachStep entry {
      position := process.position
      settlement := { before.settlement with
        transfers := before.settlement.transfers ++ [entry] }
      store := stored } = .ok ⟨⟩ settled) :
    ∃ after, Attempted digest trades stepSize process settled before after := by
  obtain ⟨last, -, -, -, -, -, htransfers, -⟩ := ResidualStore.restored_eq_ok hbefore
  obtain ⟨heligible, hother, hsame, hsameCost, hcreate⟩ := decideSettlement_transfer hdecision
  obtain ⟨hcount, hsha, hentryQuantity, hentryCost, hstep⟩ :=
    ResidualTransfer.create_eq_ok hcreate
  obtain ⟨-, hstoredEq, hearlier⟩ := ResidualStore.save_eq_ok hsaved
  obtain ⟨hquantity, hcost, hready⟩ := ready_of_detachStep before h
  have hnone : ∀ other ∈ process.store.transfers, other.historyCount ≠ trades.length := by
    intro other hmem
    have hlt := hearlier other (by rw [htransfers]; exact hmem)
    omega
  have hstored : stored.transfers = process.store.transfers ++ [entry] := by
    rw [hstoredEq, htransfers]
  obtain ⟨after, hafter, hposition, hafterTransfers, hconsumptions⟩ :=
    ResidualStore.restored_of_saved hbefore heligible hnone hstored hcount hsha hstep
      (hsame.symm.trans hquantity) (hsameCost.symm.trans hcost)
  have hstore : settled.store = stored := by
    rw [detachStep_run] at h
    split at h
    · cases h
      rfl
    · cases h
  have hs : Settling digest trades stepSize before after process.store stored :=
    ⟨hbefore, hafter, hposition, hafterTransfers, hconsumptions, entry, by rw [hstored]; simp,
      hcount⟩
  have hsettled : Settled process.position before stored settled := by
    obtain ⟨next, hrun, hnext⟩ := hready.detachStep hquantity hcost rfl hstoredEq.symm rfl
    rw [h] at hrun
    cases hrun
    exact hnext
  refine ⟨after, ?_⟩
  unfold Attempted
  rw [hstore]
  exact ⟨hs, hsettled, .inl ⟨entry, hcount, hnone, hstored⟩, fun attempts =>
    runAttempts_complete
      (fun _ hwaiting => Pending.run_transfer hs hquantity hcost hdecision hsaved hwaiting)
      (fun _ hdone => hdone.run hs) attempts (.inl ⟨rfl, hready⟩)⟩

/-- A call that settles is one of the two. -/
theorem attempted_of_settle (h : settle digest trades stepSize process = .ok true settled) :
    ∃ before after, Attempted digest trades stepSize process settled before after := by
  obtain ⟨stage, middle, hsave, h⟩ := Stateful.bind_eq_ok_iff.mp h
  cases hbefore : process.store.restored digest trades stepSize with
  | error error =>
      rw [settleToSave_of_error hbefore] at hsave
      cases hsave
  | ok before =>
      rw [settleToSave_of_ok hbefore] at hsave
      cases hdecision : decideSettlement digest trades stepSize process.position before with
      | error error =>
          rw [hdecision] at hsave
          cases hsave
      | ok decision =>
          rw [hdecision] at hsave
          cases decision with
          | nothing =>
              cases hsave
              cases h
          | detach entry =>
              obtain ⟨⟨⟩, detached, hdetach, hsave⟩ := Stateful.bind_eq_ok_iff.mp hsave
              cases hsave
              cases h
              exact ⟨before, before, attempted_detach hbefore hdecision hdetach⟩
          | transfer entry =>
              obtain ⟨⟨⟩, saved, hsaved, hsave⟩ := Stateful.bind_eq_ok_iff.mp hsave
              cases hsave
              rw [saveStep_run] at hsaved
              cases hstored : process.store.save before.settlement.transfers entry with
              | error error =>
                  rw [hstored] at hsaved
                  cases hsaved
              | ok stored =>
                  rw [hstored] at hsaved
                  cases hsaved
                  simp only [settleStored, Stateful.bind_run, Stateful.modify_run] at h
                  split at h
                  · rename_i hdetach
                    cases h
                    obtain ⟨after, hattempted⟩ :=
                      attempted_transfer hbefore hdecision hstored hdetach
                    exact ⟨before, after, hattempted⟩
                  · cases h

/-- Settling a residual survives a crash: when a call settles, then whatever attempts come
instead of it, one more call ends with the same store, which has exactly one transfer of
this history, a closed position and the same totals.  A call that raises before the
transfer is stored changes neither position nor store. -/
theorem settle_crash_safe (digest : List (Trade ctx) → String) (trades : List (Trade ctx))
    (stepSize : ℚ) (process : SettlementProcess ctx) :
    (∀ settled, settle digest trades stepSize process = .ok true settled →
      OneTransfer trades process.store settled.store ∧
        ∀ attempts, ∃ final,
          runAttempts digest trades stepSize process (attempts ++ [.complete]) = .ok final ∧
            Converged digest trades stepSize process settled final) ∧
    ∀ error next, settleToSave digest trades stepSize process = .error error next →
      next.position = process.position ∧ next.store = process.store := by
  refine ⟨?_, fun error next h => settleToSave_error h⟩
  intro settled h
  obtain ⟨before, after, hs, hsettled, hone, hall⟩ := attempted_of_settle h
  refine ⟨hone, fun attempts => ?_⟩
  obtain ⟨final, hrun, hfinal⟩ := hall attempts
  exact ⟨final, hrun, hsettled.converged hs hfinal⟩

end Attempts

/-- A process started over an empty store, when the lot is sold but for a rest. -/
def lotProcess : Except TradingError (SettlementProcess decimal128) :=
  restartProcess (fun _ => "prefix") [lotBuy, lotSell] (1 / 10) ⟨[], .nil⟩

/-- It settles, and two crashes on the way, one of them between the two writes, end in the
same state. -/
theorem settle_crash_safe_lotProcess :
    ∃ process settled final, lotProcess = .ok process ∧ process.store.transfers = [] ∧
      0 < process.position.state.quantity ∧
      settle (fun _ => "prefix") [lotBuy, lotSell] (1 / 10) process = .ok true settled ∧
      OneTransfer [lotBuy, lotSell] process.store settled.store ∧
      runAttempts (fun _ => "prefix") [lotBuy, lotSell] (1 / 10) process
        [.crashBeforeSave, .crashAfterSave, .complete] = .ok final ∧
      Converged (fun _ => "prefix") [lotBuy, lotSell] (1 / 10) process settled final := by
  have hprocess : lotProcess.toOption.map (fun process => (process.store.transfers.length,
      decide (0 < process.position.state.quantity),
      match settle (fun _ => "prefix") [lotBuy, lotSell] (1 / 10) process with
      | .ok settled _ => settled
      | .error _ _ => false)) = some (0, true, true) := by decide +kernel
  cases hstart : lotProcess with
  | error error =>
      rw [hstart] at hprocess
      cases hprocess
  | ok process =>
      rw [hstart] at hprocess
      simp only [Except.toOption, Option.map_some, Option.some.injEq, Prod.mk.injEq,
        List.length_eq_zero_iff, decide_eq_true_eq] at hprocess
      obtain ⟨hempty, hrest, hsettle⟩ := hprocess
      cases hcall : settle (fun _ => "prefix") [lotBuy, lotSell] (1 / 10) process with
      | error error next =>
          rw [hcall] at hsettle
          cases hsettle
      | ok done settled =>
          rw [hcall] at hsettle
          cases hsettle
          obtain ⟨hone, hall⟩ := (settle_crash_safe (fun _ => "prefix") [lotBuy, lotSell] (1 / 10)
            process).1 settled hcall
          obtain ⟨final, hrun, hfinal⟩ := hall [.crashBeforeSave, .crashAfterSave]
          exact ⟨process, settled, final, rfl, hempty, hrest, hcall, hone, hrun, hfinal⟩

end Trading
