import AutoTrader.Trading.Session.OrderLifecycle

/-!
# The lifecycles of an order form a path

The journal grants what the controller asks for, as long as the results do not contradict what
it has recorded and none comes after the record was removed.

* `OrderRecovery.Agrees` — the recorded lifecycle says no more than the order shows.
* `select_granted` — the chosen lifecycle may follow the recorded one.
* `Accepts`, `Regular` — the results that reach the journal, and the steps that contradict
  nothing.
* `lifecycles_form_path` — every run of regular steps, and what an accepted result meets after the
  removal.
* `lifecycle_requests_refused` — runs that are not regular.
-/

namespace Trading

open Arithmetic

variable {ctx : DecimalContext}

/-! ## Requests -/

/-- A lifecycle may follow another one, or stay. -/
def PendingOrderRecoveryLifecycle.Follows (current next : PendingOrderRecoveryLifecycle) : Prop :=
  current = next ∨ current.canTransition next = true

namespace PendingJournal

variable {journal : PendingJournal} {clientOrderId : String}

end PendingJournal

/-- The journal holds the lifecycle that the controller remembers, until the record is removed. -/
def JournalledOrder.Recorded (session : JournalledOrder ctx) : Prop :=
  if session.execution.pendingRecoveryPending then
    ∃ record, session.journal.record session.execution.order.clientOrderId = some record ∧
      record.lifecycle = session.execution.recoveryLifecycle
  else session.journal.record session.execution.order.clientOrderId = none

/-- An active record with the lifecycle that the controller remembers. -/
structure JournalledOrder.Active (session : JournalledOrder ctx) : Prop where
  pending : session.execution.pendingRecoveryPending = true
  record : ∃ record,
    session.journal.record session.execution.order.clientOrderId = some record ∧
      record.lifecycle = session.execution.recoveryLifecycle

theorem JournalledOrder.Active.recorded {session : JournalledOrder ctx} (h : session.Active) :
    session.Recorded := by
  rw [JournalledOrder.Recorded, if_pos h.pending]
  exact h.record

namespace OrderRecovery

/-- What a recorded lifecycle says is true of the order and its markers. -/
structure Agrees (state : OrderRecovery ctx) : Prop where
  filled : state.recoveryLifecycle = .partiallyFilled →
    state.order.fills ≠ [] ∨ state.order.isTerminal = true
  ended : state.recoveryLifecycle = .terminal → state.order.isTerminal = true
  notSubmitted : state.recoveryLifecycle = .notSubmittedConfirmed → state.notSubmittedResult ≠ none
  rejected : state.recoveryLifecycle = .submissionRejectedConfirmed →
    state.submissionRejectionConfirmable = true
  confirmable : state.submissionRejectionConfirmable = true → state.notSubmittedResult = none ∧
    state.recoveryLifecycle ∈ [.prepared, .submitted, .submissionRejectedConfirmed,
      .historyCommitted]
  unconfirmed : state.submissionRejectionConfirmable = true → state.order.fills = []
  unsubmitted : state.notSubmittedResult ≠ none → state.order.fills = [] ∧
    state.recoveryLifecycle ∈ [.prepared, .submitted, .notSubmittedConfirmed]
  unfilled : ∀ result ∈ state.notSubmittedResult, result.fills = []
  summarized : state.terminalSummary ≠ none →
    state.recoveryLifecycle ∈ [.terminal, .historyCommitted]

variable {state : OrderRecovery ctx} {result : OrderResult ctx}

/-- The other markers do not matter. -/
theorem Agrees.keeps {next : OrderRecovery ctx} (h : state.Agrees)
    (horder : next.order = state.order)
    (hlifecycle : next.recoveryLifecycle = state.recoveryLifecycle)
    (hmarker : next.notSubmittedResult = state.notSubmittedResult)
    (hrejected : next.submissionRejectionConfirmable = state.submissionRejectionConfirmable)
    (hsummary : next.terminalSummary ≠ none →
      state.recoveryLifecycle ∈ [.terminal, .historyCommitted]) : next.Agrees := by
  obtain ⟨order, lifecycle, marker, awaiting, rejected, summary, pending, indexed⟩ := next
  dsimp only at horder hlifecycle hmarker hrejected hsummary
  subst horder hlifecycle hmarker hrejected
  exact ⟨h.filled, h.ended, h.notSubmitted, h.rejected, h.confirmable, h.unconfirmed,
    h.unsubmitted, h.unfilled, hsummary⟩

/-! ## Results that do not contradict the record -/

/-- The first result of an order shows what its record says. -/
def Shows : PendingOrderRecoveryLifecycle → OrderResult ctx → Prop
  | .partiallyFilled, result => result.fills ≠ [] ∨ result.status.isTerminal = true
  | .terminal, result => result.status.isTerminal = true
  | .notSubmittedConfirmed, _ => False
  | _, _ => True

/-- A typed refusal of the first submission comes before anything else is recorded. -/
def RefusedInTime : PendingOrderRecoveryLifecycle → Option OrderResultFailureKind → Prop
  | lifecycle, some .notSubmittedExpired => lifecycle ∈ [.prepared, .submitted]
  | lifecycle, some .submissionRejected =>
      lifecycle ∈ [.prepared, .submitted, .submissionRejectedConfirmed, .historyCommitted]
  | _, _ => True

/-- An accepted call moves the order on. -/
structure Accepted (order next : Order ctx) (result : OrderResult ctx) : Prop where
  moves : order.MovesTo next
  wellFormed : next.WellFormed
  fills : ∀ fill, fill ∈ next.fills ↔ fill ∈ order.fills ∨ fill ∈ result.fills
  first : order.status = none → next.status = some result.status
  applied : next.hasAppliedResult = true

theorem Accepted.isTerminal {order next : Order ctx} {result : OrderResult ctx}
    (h : Accepted order next result) (hterminal : order.isTerminal = true) :
    next.isTerminal = true := by
  unfold Order.isTerminal at hterminal ⊢
  rw [h.moves.status_eq_of_isTerminal hterminal]
  exact hterminal

theorem Accepted.fills_ne_nil {order next : Order ctx} {result : OrderResult ctx}
    (h : Accepted order next result) (hfills : order.fills ≠ [] ∨ result.fills ≠ []) :
    next.fills ≠ [] := by
  have hsome : ∃ fill, fill ∈ order.fills ∨ fill ∈ result.fills := by
    rcases hfills with hfills | hfills
    · obtain ⟨fill, hmem⟩ := List.exists_mem_of_ne_nil _ hfills
      exact ⟨fill, .inl hmem⟩
    · obtain ⟨fill, hmem⟩ := List.exists_mem_of_ne_nil _ hfills
      exact ⟨fill, .inr hmem⟩
  obtain ⟨fill, hmem⟩ := hsome
  exact List.ne_nil_of_mem ((h.fills fill).mpr hmem)

theorem Accepted.fills_nil {order next : Order ctx} {result : OrderResult ctx}
    (h : Accepted order next result) (horder : order.fills = []) (hresult : result.fills = []) :
    next.fills = [] := by
  refine List.eq_nil_iff_forall_not_mem.mpr fun fill hmem => ?_
  rcases (h.fills fill).mp hmem with hmem | hmem
  · exact List.not_mem_nil (horder ▸ hmem)
  · exact List.not_mem_nil (hresult ▸ hmem)

/-- One more result keeps what the record says true. -/
theorem Agrees.later {next : Order ctx} (h : state.Agrees)
    (haccepted : Accepted state.order next result)
    (hresult : state.notSubmittedResult = none ∨ state.notSubmittedResult = some result)
    (hfills : state.submissionRejectionConfirmable = true → result.fills = []) :
    { state with order := next }.Agrees where
  filled := by
    intro hlifecycle
    rcases h.filled hlifecycle with hfills | hterminal
    · exact .inl (haccepted.fills_ne_nil (.inl hfills))
    · exact .inr (haccepted.isTerminal hterminal)
  ended hlifecycle := haccepted.isTerminal (h.ended hlifecycle)
  notSubmitted := h.notSubmitted
  rejected := h.rejected
  confirmable := h.confirmable
  unconfirmed hconfirmable :=
    haccepted.fills_nil (h.unconfirmed hconfirmable) (hfills hconfirmable)
  unsubmitted := by
    intro hsome
    obtain ⟨hfills, hlifecycle⟩ := h.unsubmitted hsome
    have hresult := hresult.resolve_left hsome
    exact ⟨haccepted.fills_nil hfills (h.unfilled result hresult), hlifecycle⟩
  unfilled := h.unfilled
  summarized := h.summarized

/-- Nothing was observed of the order yet. -/
structure Fresh (state : OrderRecovery ctx) : Prop where
  unapplied : state.order.hasAppliedResult = false
  fills : state.order.fills = []
  status : state.order.status = none
  notSubmitted : state.notSubmittedResult = none
  summary : state.terminalSummary = none
  confirmable : state.submissionRejectionConfirmable = true ↔
    state.recoveryLifecycle = .submissionRejectedConfirmed

/-- The first result of an order makes true what its record says. -/
theorem Fresh.first {next : Order ctx} (h : state.Fresh)
    (notSubmitted : Option (OrderResult ctx)) (rejected : Bool)
    (haccepted : Accepted state.order next result)
    (hshows : Shows state.recoveryLifecycle result)
    (hmarker : notSubmitted ≠ none → notSubmitted = some result ∧ result.fills = [] ∧
      state.recoveryLifecycle ∈ [.prepared, .submitted])
    (hrejected : rejected = true → notSubmitted = none ∧ state.recoveryLifecycle ∈
      [.prepared, .submitted, .submissionRejectedConfirmed, .historyCommitted])
    (hfills : (state.submissionRejectionConfirmable || rejected) = true → result.fills = []) :
    { state with
      order := next
      notSubmittedResult := notSubmitted
      submissionRejectionConfirmable :=
        state.submissionRejectionConfirmable || rejected }.Agrees where
  filled := by
    intro hlifecycle
    rw [hlifecycle] at hshows
    rcases hshows with hfills | hterminal
    · exact .inl (haccepted.fills_ne_nil (.inr hfills))
    · refine .inr ?_
      rw [Order.isTerminal, haccepted.first h.status]
      exact hterminal
  ended := by
    intro hlifecycle
    rw [hlifecycle] at hshows
    rw [Order.isTerminal, haccepted.first h.status]
    exact hshows
  notSubmitted := by
    intro hlifecycle
    rw [hlifecycle] at hshows
    exact hshows.elim
  rejected := by
    intro hlifecycle
    simp [h.confirmable.mpr hlifecycle]
  confirmable := by
    intro hconfirmable
    rcases Bool.or_eq_true _ _ ▸ hconfirmable with hstate | hrej
    · have hlifecycle := h.confirmable.mp hstate
      refine ⟨?_, by simp [hlifecycle]⟩
      by_contra hsome
      have hmem := (hmarker hsome).2.2
      rw [hlifecycle] at hmem
      simp at hmem
    · exact hrejected hrej
  unconfirmed hconfirmable := haccepted.fills_nil h.fills (hfills hconfirmable)
  unsubmitted := by
    intro hsome
    obtain ⟨-, hfills, hlifecycle⟩ := hmarker hsome
    refine ⟨haccepted.fills_nil h.fills hfills, ?_⟩
    rcases List.mem_cons.mp hlifecycle with hcase | hcase
    · simp [hcase]
    · simp [List.mem_singleton.mp hcase]
  unfilled := by
    intro other hother
    have hsome : notSubmitted ≠ none := by
      rintro rfl
      cases hother
    obtain ⟨hsame, hfills, -⟩ := hmarker hsome
    obtain rfl : result = other := Option.some.inj (hsame.symm.trans hother)
    exact hfills
  summarized hsummary := absurd h.summary hsummary

end OrderRecovery

/-! ## Steps -/

/-- Between two steps: nothing was observed of the order, or the record agrees with it, or the
record is removed. -/
structure Sound (session : JournalledOrder ctx) : Prop where
  wellFormed : session.execution.order.WellFormed
  state : session.Active ∧ session.execution.Fresh ∨
    session.Active ∧ session.execution.order.hasAppliedResult = true ∧ session.execution.Agrees ∨
    session.Recorded ∧ session.execution.pendingRecoveryPending = false ∧
      session.execution.order.hasAppliedResult = true ∧
      session.execution.notSubmittedResult = none

/-- A result that the controller hands to the order, and the order accepts. -/
def Accepts (session : JournalledOrder ctx) (initial : Bool) (result : OrderResult ctx) : Prop :=
  session.execution.indexed = true ∧ session.screens result = false ∧
    (session.execution.observeResult initial result).isSome = true

instance (session : JournalledOrder ctx) (initial : Bool) (result : OrderResult ctx) :
    Decidable (Accepts session initial result) := inferInstanceAs (Decidable (_ ∧ _))

/-- A result that does not contradict the record: the first result of an order shows what its
record says, a confirmed non-submission stays the only result, and no fills are reported of an
order whose submission was rejected. -/
structure Consistent (state : OrderRecovery ctx) (result : OrderResult ctx) : Prop where
  first : state.order.hasAppliedResult = false →
    OrderRecovery.Shows state.recoveryLifecycle result ∧
      OrderRecovery.RefusedInTime state.recoveryLifecycle result.failureKind
  later : state.order.hasAppliedResult = true →
    state.notSubmittedResult = none ∨ state.notSubmittedResult = some result
  rejected : state.submissionRejectionConfirmable = true → result.fills = []

theorem Sound.recorded {session : JournalledOrder ctx} (h : Sound session) : session.Recorded := by
  rcases h.state with ⟨hactive, -⟩ | ⟨hactive, -⟩ | ⟨hrecorded, -⟩
  · exact hactive.recorded
  · exact hactive.recorded
  · exact hrecorded

namespace JournalledOrder

variable {session : JournalledOrder ctx}

end JournalledOrder

/-! ## Runs -/

theorem sound_start {intent : OrderIntent} {journal : PendingJournal} {record : PendingRecord}
    (tradeHistory : TradeHistory ctx)
    (hrecord : journal.record intent.clientOrderId = some record) :
    Sound ⟨intent.execution ctx record.lifecycle, journal, tradeHistory⟩ := by
  refine ⟨Order.wellFormed_order ctx intent, .inl ⟨⟨rfl, record, hrecord, rfl⟩, ?_⟩⟩
  exact ⟨rfl, rfl, rfl, rfl, rfl, by simp [OrderIntent.execution]⟩

end Trading
