import AutoTrader.Trading.Session.Submission

/-!
# The limits of entry orders

Every entry that reaches the gateway has passed the limits of the policy.

* `Stage.NeverSubmits` — a stage that ends the submission does not hand it to the gateway.
* `evaluateBuy_allowed` — what an allowed entry costs.
* `limitBuyQuantity_within` — the lowered quantity keeps the limits, where there is room.
* `submitOrderAction_buyLimits` — both for every submission.
-/

namespace Trading

open Arithmetic

/-! ## Stages that end a submission -/

/-- The order was handed to the gateway. -/
def Submission.isSubmitted {ctx : DecimalContext} : Submission ctx → Bool
  | .submitted _ => true
  | _ => false

variable {ctx : DecimalContext} {α β : Type}

/-- Where the stage ends the submission, nothing is handed to the gateway. -/
def Stage.NeverSubmits (stage : Stage ctx α) : Prop :=
  ∀ ended, stage = .error ended → ended.1.isSubmitted = false

namespace Stage.NeverSubmits

theorem ok (a : α) : Stage.NeverSubmits (Except.ok a : Stage ctx α) := by
  intro ended hended
  exact absurd hended (by simp)

theorem error {ended : Submission ctx × SubmissionSession ctx}
    (h : ended.1.isSubmitted = false) : Stage.NeverSubmits (Except.error ended : Stage ctx α) := by
  intro other hother
  cases Except.error.inj hother
  exact h

theorem bind {stage : Stage ctx α} {next : α → Stage ctx β} (h : stage.NeverSubmits)
    (hnext : ∀ a, stage = .ok a → (next a).NeverSubmits) : Stage.NeverSubmits (stage >>= next) := by
  intro ended hended
  cases stage with
  | error stopped =>
      cases Except.error.inj hended
      exact h _ rfl
  | ok a => exact hnext a rfl ended hended

end Stage.NeverSubmits

namespace SubmissionSession

variable {session : SubmissionSession ctx} {env : SubmissionEnvironment ctx}

theorem raising_neverSubmits (computation : Except TradingError α) :
    (session.raising computation).NeverSubmits := by
  cases computation with
  | ok a => exact .ok a
  | error e => exact .error rfl

theorem blockBuyBudget_isSubmitted (action : SubmitOrder) (decision : RiskDecision ctx)
    (quantity price : ℚ) (prepared : Bool) :
    (session.blockBuyBudget env action decision quantity price prepared).1.isSubmitted = false := by
  unfold blockBuyBudget
  split <;> rfl

theorem deferSellMinimum_isSubmitted (action : SubmitOrder) (quantity price : ℚ)
    (prepared : Bool) :
    (session.deferSellMinimum env action quantity price prepared).1.isSubmitted = false := by
  unfold deferSellMinimum
  split <;> rfl

theorem rejectPreparation_isSubmitted : session.rejectPreparation.1.isSubmitted = false := by
  unfold rejectPreparation
  split <;> rfl

theorem failPreparation_isSubmitted (action : SubmitOrder) (forceSell : Bool) (price quantity : ℚ)
    (requestedNotional : Option ℚ) (error : PreparationError) :
    (session.failPreparation env action forceSell price quantity requestedNotional
      error).1.isSubmitted = false := by
  unfold failPreparation
  dsimp only
  split
  · split
    · rfl
    · exact blockBuyBudget_isSubmitted _ _ _ _ _
  split
  · exact deferSellMinimum_isSubmitted _ _ _ _
  split
  · split
    · rfl
    · exact rejectPreparation_isSubmitted
  · exact rejectPreparation_isSubmitted

theorem screenBuy_neverSubmits (action : SubmitOrder) (price quantity : ℚ) :
    (session.screenBuy env action price quantity).NeverSubmits := by
  unfold screenBuy
  dsimp only
  refine .bind (raising_neverSubmits _) fun decision _ => ?_
  split
  · exact .error (blockBuyBudget_isSubmitted _ _ _ _ _)
  split
  · exact .error (blockBuyBudget_isSubmitted _ _ _ _ _)
  refine .bind (raising_neverSubmits _) fun deferred _ => ?_
  split
  · exact .error (blockBuyBudget_isSubmitted _ _ _ _ _)
  · exact .ok _

theorem deferKnownSell_neverSubmits (action : SubmitOrder) (forceSell : Bool)
    (price quantity : ℚ) :
    (session.deferKnownSell env action forceSell price quantity).NeverSubmits := by
  unfold deferKnownSell
  split
  · split
    · exact .ok _
    · refine .bind (raising_neverSubmits _) fun fingerprint _ => ?_
      dsimp only
      split
      · exact .error (deferSellMinimum_isSubmitted _ _ _ _)
      · exact .ok _
  · exact .ok _

theorem screen_neverSubmits (action : SubmitOrder) (forceSell : Bool) (price quantity : ℚ) :
    (session.screen env action forceSell price quantity).NeverSubmits := by
  have hside : (session.screenSide env action price quantity).NeverSubmits := by
    unfold screenSide
    split
    · exact screenBuy_neverSubmits _ _ _
    · exact .ok _
  have hzero : ∀ requested, (session.rejectZeroQuantity action requested).NeverSubmits := by
    intro requested
    unfold rejectZeroQuantity
    split
    · exact .ok _
    split <;> exact .error rfl
  exact .bind hside fun screened _ => .bind (hzero _) fun _ _ =>
    .bind (deferKnownSell_neverSubmits _ _ _ _) fun _ _ => .ok _

theorem gateBuy_neverSubmits (action : SubmitOrder) (order : OrderIntent) (price : ℚ)
    (requestedNotional : Option ℚ) :
    (session.gateBuy env action order price requestedNotional).NeverSubmits := by
  unfold gateBuy
  split
  · refine .bind (raising_neverSubmits _) fun decision _ => ?_
    split
    · exact .error (blockBuyBudget_isSubmitted _ _ _ _ _)
    · exact .ok _
  · exact .ok _

theorem finalGate_neverSubmits (action : SubmitOrder) (forceSell : Bool) (order : OrderIntent)
    (price quantity : ℚ) (requestedNotional : Option ℚ) :
    (session.finalGate env action forceSell order price quantity requestedNotional).NeverSubmits := by
  unfold finalGate
  dsimp only
  split
  · exact .error rfl
  · refine .bind ?_ fun _ _ => .bind (gateBuy_neverSubmits _ _ _ _) fun gated _ => ?_
    · unfold checkRecoveredQuantity
      split
      · exact .error rfl
      · exact .ok _
    · split
      · exact .error rfl
      · exact .ok _

theorem prepare_neverSubmits (action : SubmitOrder) (forceSell : Bool) (price quantity : ℚ)
    (requestedNotional : Option ℚ) (order : OrderIntent) :
    (session.prepare env action forceSell price quantity requestedNotional order).NeverSubmits := by
  unfold prepare
  split
  · exact .ok _
  · exact .error (failPreparation_isSubmitted _ _ _ _ _ _)

theorem placing_neverSubmits (action : SubmitOrder) (forceSell : Bool) (price quantity : ℚ) :
    (session.placing env action forceSell price quantity).NeverSubmits :=
  .bind (screen_neverSubmits _ _ _ _) fun _ _ => .bind (raising_neverSubmits _) fun _ _ =>
    .bind (raising_neverSubmits _) fun _ _ => .bind (prepare_neverSubmits _ _ _ _ _ _) fun _ _ =>
      .bind (finalGate_neverSubmits _ _ _ _ _ _) fun _ _ => .ok _

theorem checkAdmission_neverSubmits (action : SubmitOrder) (forceSell : Bool)
    (quantityOverride : Option ℚ) :
    (session.checkAdmission env action forceSell quantityOverride).NeverSubmits := by
  unfold checkAdmission
  dsimp only
  repeat' split
  all_goals first | exact .error rfl | exact .ok _

/-! ## What reaches the gateway -/

theorem register_submitted {order registered : OrderIntent} {forceSell : Bool}
    {final : SubmissionSession ctx}
    (h : session.register env registered forceSell = (.submitted order, final)) :
    registered = order ∧ final = session.registerOrder order forceSell := by
  unfold register at h
  dsimp only at h
  split at h
  · cases h
  split at h
  · cases h
  split at h
  · cases h
  · cases h
    exact ⟨rfl, rfl⟩

/-- A submitted order has passed the final gate, in the session it is registered in. -/
theorem place_submitted {action : SubmitOrder} {forceSell : Bool} {price quantity : ℚ}
    {order : OrderIntent} {final : SubmissionSession ctx}
    (h : session.place env action forceSell price quantity = (.submitted order, final)) :
    ∃ (gated : SubmissionSession ctx) (screened : ℚ × Option ℚ),
      (env.meanwhile session).finalGate env action forceSell order price screened.1 screened.2 =
        .ok gated ∧ final = gated.registerOrder order forceSell := by
  unfold place at h
  cases hplacing : session.placing env action forceSell price quantity with
  | error ended =>
      have hnever := placing_neverSubmits action forceSell price quantity ended hplacing
      rw [hplacing] at h
      rw [show ended = (.submitted order, final) from h] at hnever
      cases hnever
  | ok finished =>
      rw [hplacing] at h
      rw [show finished = (.submitted order, final) from h] at hplacing
      obtain ⟨screened, -, hplacing⟩ := Except.bind_eq_ok_iff.mp hplacing
      obtain ⟨_, -, hplacing⟩ := Except.bind_eq_ok_iff.mp hplacing
      obtain ⟨_, -, hplacing⟩ := Except.bind_eq_ok_iff.mp hplacing
      obtain ⟨prepared, -, hplacing⟩ := Except.bind_eq_ok_iff.mp hplacing
      obtain ⟨gated, hgated, hplacing⟩ := Except.bind_eq_ok_iff.mp hplacing
      obtain ⟨rfl, hfinal⟩ := register_submitted (Except.ok.inj hplacing)
      exact ⟨gated, screened, hgated, hfinal⟩

/-- The final gate has evaluated the filtered entry in the session it returns. -/
theorem finalGate_evaluated {action : SubmitOrder} {forceSell : Bool} {order : OrderIntent}
    {price quantity : ℚ} {requestedNotional : Option ℚ} {gated : SubmissionSession ctx}
    (h : session.finalGate env action forceSell order price quantity requestedNotional = .ok gated)
    (hside : order.side = .buy) :
    ∃ decision, gated.evaluateBuy env.now order.marketPriceAtDecision order.submittedQuantity
      requestedNotional = .ok decision ∧ decision.allowed = true := by
  unfold finalGate at h
  dsimp only at h
  split at h
  · cases h
  obtain ⟨_, -, h⟩ := Except.bind_eq_ok_iff.mp h
  obtain ⟨passed, hgate, h⟩ := Except.bind_eq_ok_iff.mp h
  split at h
  · cases h
  cases h
  unfold gateBuy at hgate
  rw [if_pos hside] at hgate
  obtain ⟨decision, hdecision, hgate⟩ := Except.bind_eq_ok_iff.mp hgate
  split at hgate
  · cases hgate
  · rename_i hallowed
    cases hgate
    refine ⟨decision, ?_, by simpa using hallowed⟩
    cases hevaluated : (session.clearWaits action).evaluateBuy env.now order.marketPriceAtDecision
        order.submittedQuantity requestedNotional with
    | error e =>
        rw [hevaluated] at hdecision
        cases hdecision
    | ok evaluated =>
        rw [hevaluated] at hdecision
        cases hdecision
        exact hevaluated

theorem evaluateBuy_eq_ok {now : Timestamp} {price quantity : ℚ} {requestedNotional : Option ℚ}
    {decision : RiskDecision ctx}
    (h : session.evaluateBuy now price quantity requestedNotional = .ok decision) :
    ∃ (budget : RiskBudgetSnapshot ctx) (realizedPnl : ℚ),
      evaluateBuyRisk session.riskPolicy budget = .ok decision ∧
      budget.toRiskBudgetFields =
        session.buyRiskBudgetFields now price quantity requestedNotional realizedPnl := by
  obtain ⟨budget, hbudget, h⟩ := Except.bind_eq_ok_iff.mp h
  obtain ⟨realizedPnl, -, hbudget⟩ := Except.bind_eq_ok_iff.mp hbudget
  exact ⟨budget, realizedPnl, h, RiskBudgetFields.create_eq_ok hbudget⟩

/-! ## Exact arithmetic -/

section Exact

variable {session : SubmissionSession .exact} {env : SubmissionEnvironment .exact}

/-- The value of the position, of the residual and of the open entries. -/
def exposure (session : SubmissionSession .exact) (price : ℚ) : ℚ :=
  session.position.state.quantity * price + session.residualTotals.1 * price +
    ((session.orders.filter isOpenBuy).map fun state =>
      max 0 (state.order.submittedQuantity - state.order.filledQuantity) *
        state.order.marketPriceAtDecision).sum

/-- The limits hold for an entry of a quantity at a price. -/
structure WithinLimits (session : SubmissionSession .exact) (policy : RiskPolicy)
    (quantity price : ℚ) : Prop where
  order : ∀ limit ∈ policy.maxOrderNotional, quantity * price ≤ limit
  position : ∀ limit ∈ policy.maxPositionNotional,
    session.exposure price + quantity * price ≤ limit

/-- The gate allows an entry of a quantity at a price. -/
structure BuyAllowed (session : SubmissionSession .exact) (quantity price : ℚ) : Prop where
  limits : ∃ policy, session.riskPolicy = some policy ∧
    session.sessionRiskPolicyVersion = some policy.version ∧
    session.WithinLimits policy quantity price
  kill : session.manualKillActive = false

theorem buyRiskBudgetFields_projected (now : Timestamp) (price quantity : ℚ)
    (requestedNotional : Option ℚ) (realizedPnl : ℚ) :
    (session.buyRiskBudgetFields now price quantity requestedNotional
      realizedPnl).projectedPositionNotional = session.exposure price + quantity * price := by
  show (session.position.state.quantity * price + session.residualTotals.1 * price) +
    DecimalContext.exact.sum ((session.orders.filter isOpenBuy).map reservedValue) +
      quantity * price = _
  rw [DecimalContext.exact_sum]
  rfl

/-- What an allowed entry costs. -/
theorem evaluateBuy_allowed {now : Timestamp} {price quantity : ℚ} {requestedNotional : Option ℚ}
    {decision : RiskDecision .exact}
    (h : session.evaluateBuy now price quantity requestedNotional = .ok decision)
    (hallowed : decision.allowed = true) : session.BuyAllowed quantity price := by
  obtain ⟨budget, realizedPnl, hrisk, hfields⟩ := evaluateBuy_eq_ok h
  obtain ⟨policy, hpolicy, hversion, hkill, horder, hposition⟩ :=
    evaluateBuyRisk_allowed hrisk hallowed
  rw [hfields] at hversion hkill horder hposition
  rw [buyRiskBudgetFields_projected] at hposition
  exact ⟨⟨policy, hpolicy, hversion, horder, hposition⟩, hkill⟩

theorem capQuantity_le (price quantity : ℚ) (limit : Option ℚ) :
    capQuantity price quantity limit ≤ quantity := by
  cases limit with
  | none => exact le_refl _
  | some limit => exact min_le_left _ _

/-- A capped quantity costs at most the limit. -/
theorem capQuantity_mul_le {price : ℚ} (hprice : 0 < price) (quantity limit : ℚ) :
    capQuantity price quantity (some limit) * price ≤ limit := by
  calc capQuantity price quantity (some limit) * price
      ≤ unitsFor limit price * price :=
        mul_le_mul_of_nonneg_right (min_le_right _ _) hprice.le
    _ ≤ limit := mul_truncate_div_le 34 limit hprice

/-- The lowered quantity keeps the limits of the policy, where the position leaves room. -/
theorem limitBuyQuantity_within {policy : RiskPolicy} (hpolicy : session.riskPolicy = some policy)
    {price : ℚ} (hprice : 0 < price) (quantity : ℚ)
    (hroom : ∀ limit ∈ policy.maxPositionNotional, session.exposure price ≤ limit) :
    session.WithinLimits policy (session.limitBuyQuantity quantity price) price := by
  unfold limitBuyQuantity
  rw [hpolicy]
  dsimp only
  constructor
  · intro limit hlimit
    rw [Option.mem_def.mp hlimit]
    calc _ ≤ capQuantity price quantity (some limit) * price :=
          mul_le_mul_of_nonneg_right (capQuantity_le _ _ _) hprice.le
      _ ≤ limit := capQuantity_mul_le hprice quantity limit
  · intro limit hlimit
    rw [Option.mem_def.mp hlimit]
    have hremaining : max 0 (DecimalContext.exact.sub (DecimalContext.exact.sub limit
        (DecimalContext.exact.add (session.buyExposure price).1 (session.buyExposure price).2.1))
          (session.buyExposure price).2.2) = limit - session.exposure price := by
      have hsum : (session.buyExposure price).2.2 =
          ((session.orders.filter isOpenBuy).map fun state =>
            max 0 (state.order.submittedQuantity - state.order.filledQuantity) *
              state.order.marketPriceAtDecision).sum := DecimalContext.exact_sum _
      rw [hsum]
      show max 0 (limit - (session.position.state.quantity * price +
        session.residualTotals.1 * price) - _) = _
      have hnonneg := sub_nonneg.mpr (hroom limit hlimit)
      unfold exposure at hnonneg ⊢
      rw [max_eq_right (by linarith)]
      ring
    have hcap := capQuantity_mul_le hprice (capQuantity price quantity policy.maxOrderNotional)
      (limit - session.exposure price)
    simp only [Option.map_some]
    rw [hremaining]
    linarith

/-- An entry only reaches the gateway within the limits of the policy, and where the position
leaves room the lowered quantity is not blocked for exceeding them. -/
theorem submitOrderAction_buyLimits (session : SubmissionSession .exact)
    (env : SubmissionEnvironment .exact) (action : SubmitOrder) (forceSell : Bool)
    (quantityOverride : Option ℚ) :
    (∀ order, (session.submitOrderAction env action forceSell quantityOverride).outcome =
        .submitted order → order.side = .buy →
      ∃ gated : SubmissionSession .exact,
        (session.submitOrderAction env action forceSell quantityOverride).session =
          gated.registerOrder order forceSell ∧
        gated.BuyAllowed order.submittedQuantity order.marketPriceAtDecision) ∧
    ∀ (now : Timestamp) (price quantity : ℚ) (requestedNotional : Option ℚ)
      (decision : RiskDecision .exact), 0 < price →
      (∀ policy ∈ session.riskPolicy, ∀ limit ∈ policy.maxPositionNotional,
        session.exposure price ≤ limit) →
      session.evaluateBuy now price (session.limitBuyQuantity quantity price) requestedNotional =
        .ok decision →
      decision.blockReason ≠ some .riskOrderNotionalExceeded ∧
        decision.blockReason ≠ some .riskPositionNotionalExceeded := by
  constructor
  · intro order houtcome hside
    unfold submitOrderAction at houtcome ⊢
    split at houtcome
    · rename_i ended next hadmitted
      have hnever : Submission.isSubmitted ended = false := checkAdmission_neverSubmits _ _ _ _ hadmitted
      dsimp only at houtcome
      rw [houtcome] at hnever
      cases hnever
    split at houtcome
    · cases houtcome
    · cases houtcome
    dsimp only at houtcome ⊢
    split at houtcome
    · cases houtcome
    · rename_i quantity next hquantity
      dsimp only at houtcome ⊢
      obtain ⟨gated, screened, hgate, hfinal⟩ := place_submitted (Prod.ext houtcome rfl)
      obtain ⟨decision, hdecision, hallowed⟩ := finalGate_evaluated hgate hside
      exact ⟨gated, hfinal, evaluateBuy_allowed hdecision hallowed⟩
  · intro now price quantity requestedNotional decision hprice hroom hdecision
    obtain ⟨budget, realizedPnl, hrisk, hfields⟩ := evaluateBuy_eq_ok hdecision
    refine evaluateBuyRisk_within hrisk fun policy hpolicy => ?_
    have hwithin := limitBuyQuantity_within hpolicy hprice quantity (hroom policy hpolicy)
    rw [hfields, buyRiskBudgetFields_projected]
    exact ⟨hwithin.order, hwithin.position⟩

/-- A policy with 100 for an order and 150 for the position. -/
def entryPolicy : RiskPolicy where
  version := 1
  maxOrderNotional := some 100
  maxPositionNotional := some 150
  maxDailyLoss := none
  dailyLossScope := .realizedOnly
  version_pos := by decide
  order_pos := by simp
  position_pos := by simp
  loss_pos := by simp

/-- A session with 1000 to spend, half of it at a time. -/
def entrySession : SubmissionSession .exact where
  stmState := .lowerTouchWatch
  runtime := { pendingOrderSide := some .buy }
  scaleInRatio := 1 / 2
  scaleOutRatio := 1
  realtimePrice := .finite 10
  balances := { free := fun _ => some 1000 }
  position := { state := closedState _ none }
  riskPolicy := some entryPolicy
  sessionRiskPolicyVersion := some 1

/-- An entry at a price of 10 is lowered to the limit of an order, and submitted. -/
theorem submitOrderAction_buyLimits_entry :
    let env : SubmissionEnvironment .exact :=
      { now := 0, digest := fun _ _ => "", prepare := fun fields => .ok fields }
    let action : SubmitOrder :=
      { strategy := .caseB, side := .buy, attemptKind := .initial, idempotencyKey := "entry" }
    (∃ (order : OrderIntent) (gated : SubmissionSession .exact),
      (entrySession.submitOrderAction env action).outcome = .submitted order ∧
      (entrySession.submitOrderAction env action).session = gated.registerOrder order false ∧
      gated.BuyAllowed order.submittedQuantity order.marketPriceAtDecision) ∧
    ∀ decision, entrySession.evaluateBuy 0 10 (entrySession.limitBuyQuantity 50 10) none =
        .ok decision → decision.blockReason ≠ some .riskOrderNotionalExceeded := by
  intro env action
  have hlimits := submitOrderAction_buyLimits entrySession env action false none
  constructor
  · have hsubmitted : (match (entrySession.submitOrderAction env action).outcome with
        | .submitted order => order.side == .buy
        | _ => false) = true := by decide +kernel
    split at hsubmitted
    · rename_i order houtcome
      obtain ⟨gated, hregistered, hallowed⟩ := hlimits.1 order houtcome (by simpa using hsubmitted)
      exact ⟨order, gated, houtcome, hregistered, hallowed⟩
    · cases hsubmitted
  · intro decision hdecision
    refine (hlimits.2 0 10 50 none decision (by norm_num) ?_ hdecision).1
    intro policy hpolicy limit hlimit
    cases hpolicy
    cases hlimit
    have hexposure : entrySession.exposure 10 = 0 := by decide +kernel
    rw [hexposure]
    norm_num

end Exact

end SubmissionSession

end Trading
