import AutoTrader.Trading.Orders.Invariant

/-!
# Orders converge

REST responses, queries and stream reports race, so the results of one order arrive
in any sequence.  Two orders of the same intent that accepted the same results, each
in its own sequence, agree.

* `Order.applyResults` — the first result as the initial one, the rest as later ones.
* `Order.Reflects` — what an order that accepted some results knows: the latest status
  observed, the exchange order ID, and exactly the fills of the results.
* `Order.applyResults_reflects` — accepting results in full, in any sequence, gives an
  order that reflects them.
* `Order.converges` — two permutations accepted in full give the same status, exchange
  order ID and fills, and the same aggregates where their sums lose no digit.
* `Order.roundedSums_diverge` — with 34 digits a sum may depend on the sequence.
-/

namespace Trading

open Arithmetic

namespace Order

variable {ctx : DecimalContext}

/-! ## Accepting results in full -/

/-- Every result is applied as a later one. -/
def reapplyResults : List (OrderResult ctx) → EStateM TradingError (Order ctx) Unit
  | [] => pure ()
  | result :: results => do
      reapplyOrderResult result
      reapplyResults results

/-- The first result is applied as the initial one, the rest as later ones. -/
def applyResults : List (OrderResult ctx) → EStateM TradingError (Order ctx) Unit
  | [] => pure ()
  | result :: results => do
      applyOrderResult result
      reapplyResults results

/-! ## What an order knows -/

/-- What an order knows after accepting the results `seen`. -/
structure Reflects (order : Order ctx) (seen : List (OrderResult ctx)) : Prop where
  wellFormed : order.WellFormed
  status_observed : ∀ status ∈ order.status, ∃ result ∈ seen, result.status = status
  status_latest : ∀ result ∈ seen, ∃ status ∈ order.status, result.status.Advances status
  id_observed : ∀ id ∈ order.exchangeOrderId, ∃ result ∈ seen, result.exchangeOrderId = some id
  id_known : ∀ result ∈ seen, ∀ id ∈ result.exchangeOrderId, order.exchangeOrderId = some id
  fills_seen : ∀ fill, fill ∈ order.fills ↔ ∃ result ∈ seen, fill ∈ result.fills

theorem reflects_order (ctx : DecimalContext) (intent : OrderIntent) :
    (intent.order ctx).Reflects [] where
  wellFormed := wellFormed_order ctx intent
  status_observed := by simp [OrderIntent.order]
  status_latest := by simp
  id_observed := by simp [OrderIntent.order]
  id_known := by simp
  fills_seen := by simp [OrderIntent.order]

variable {order : Order ctx} {result : OrderResult ctx} {accepted : AcceptedResult ctx}

/-- The exchange order IDs of an order and of a result it accepts agree. -/
theorem Accepts.id_eq (h : Accepts order result accepted) {id id' : String}
    (horder : order.exchangeOrderId = some id) (hresult : result.exchangeOrderId = some id') :
    id = id' := by
  have hidentity := h.identity
  simp only [validateResultIdentity, Except.require_bind_eq_ok_iff] at hidentity
  have hsame := hidentity.2.2.1 (by simp [horder]) (by simp [hresult])
  rw [horder, hresult] at hsame
  exact (Option.some.inj hsame).symm

/-- Accepting one more result. -/
theorem Reflects.step {seen : List (OrderResult ctx)} (hseen : order.Reflects seen)
    (h : Accepts order result accepted) :
    (order.commitResult result accepted).Reflects (seen ++ [result]) where
  wellFormed := h.wellFormed hseen.wellFormed
  status_observed := by
    intro status hstatus
    rw [commitResult_status, Option.mem_some_iff] at hstatus
    subst hstatus
    rcases (resolveOrderStatus_eq_ok h.resolved).2.2 with hcurrent | hobserved
    · obtain ⟨earlier, hmem, heq⟩ := hseen.status_observed _ hcurrent
      exact ⟨earlier, by simp [hmem], heq⟩
    · exact ⟨result, by simp, hobserved⟩
  status_latest := by
    intro observed hmem
    refine ⟨accepted.status, by simp, ?_⟩
    obtain ⟨hcurrent, hobserved, -⟩ := resolveOrderStatus_eq_ok h.resolved
    rcases List.mem_append.mp hmem with hearlier | hnew
    · obtain ⟨status, hstatus, hadvances⟩ := hseen.status_latest observed hearlier
      exact hadvances.trans (hcurrent status hstatus)
    · rw [List.mem_singleton.mp hnew]
      exact hobserved
  id_observed := by
    intro id hid
    rw [commitResult_exchangeOrderId, Option.mem_def, Option.or_eq_some_iff] at hid
    rcases hid with horder | ⟨-, hresult⟩
    · obtain ⟨earlier, hmem, heq⟩ := hseen.id_observed id horder
      exact ⟨earlier, by simp [hmem], heq⟩
    · exact ⟨result, by simp, hresult⟩
  id_known := by
    intro observed hmem id hid
    rw [commitResult_exchangeOrderId, Option.or_eq_some_iff]
    rcases List.mem_append.mp hmem with hearlier | hnew
    · exact .inl (hseen.id_known observed hearlier id hid)
    · rw [List.mem_singleton.mp hnew] at hid
      cases horder : order.exchangeOrderId with
      | none => exact .inr ⟨rfl, hid⟩
      | some known => exact .inl (congrArg some (h.id_eq horder hid))
  fills_seen := by
    intro fill
    rw [commitResult_fills, (keeps_mergeFills h.merged).mem_iff fill, hseen.fills_seen]
    simp only [List.mem_append, List.mem_singleton]
    constructor
    · rintro (⟨earlier, hmem, hfill⟩ | hfill)
      · exact ⟨earlier, .inl hmem, hfill⟩
      · exact ⟨result, .inr rfl, hfill⟩
    · rintro ⟨observed, hmem | rfl, hfill⟩
      · exact .inl ⟨observed, hmem, hfill⟩
      · exact .inr hfill

/-- An accepted call of `applyResult`. -/
theorem applyResult_eq_ok {next : Order ctx} (h : applyResult result order = .ok () next) :
    ∃ accepted, Accepts order result accepted ∧ next = order.commitResult result accepted := by
  rw [applyResult_run] at h
  split at h
  · rename_i accepted hcheck
    cases h
    exact ⟨accepted, checkResult_eq_ok hcheck, rfl⟩
  · cases h

theorem reapplyResults_reflects {results seen : List (OrderResult ctx)} {last : Order ctx}
    (hseen : order.Reflects seen) (h : reapplyResults results order = .ok () last) :
    last.Reflects (seen ++ results) ∧ last.toOrderIntent = order.toOrderIntent := by
  induction results generalizing order seen with
  | nil =>
      cases h
      exact ⟨by simpa using hseen, rfl⟩
  | cons result results ih =>
      obtain ⟨_, middle, hfirst, hrest⟩ := Stateful.bind_eq_ok_iff.mp h
      rw [(call_run order result).2] at hfirst
      split at hfirst
      · obtain ⟨accepted, haccepts, rfl⟩ := applyResult_eq_ok hfirst
        have hlast := ih (hseen.step haccepts) hrest
        rw [List.append_assoc, commitResult_toOrderIntent] at hlast
        exact hlast
      · cases hfirst

/-- Accepting results in full gives an order that reflects them. -/
theorem applyResults_reflects {intent : OrderIntent} {results : List (OrderResult ctx)}
    {last : Order ctx} (h : applyResults results (intent.order ctx) = .ok () last) :
    last.Reflects results ∧ last.toOrderIntent = intent := by
  cases results with
  | nil =>
      cases h
      exact ⟨reflects_order ctx intent, rfl⟩
  | cons result results =>
      obtain ⟨_, middle, hfirst, hrest⟩ := Stateful.bind_eq_ok_iff.mp h
      rw [(call_run _ result).1] at hfirst
      split at hfirst
      · obtain ⟨accepted, haccepts, rfl⟩ := applyResult_eq_ok hfirst
        have hlast := reapplyResults_reflects ((reflects_order ctx intent).step haccepts) hrest
        rw [List.nil_append, List.singleton_append, commitResult_toOrderIntent] at hlast
        exact hlast
      · cases hfirst

/-! ## Orders that reflect the same results -/

variable {a b : Order ctx} {seen seen' : List (OrderResult ctx)}

/-- What an order knows does not depend on the sequence of its results. -/
theorem Reflects.of_perm (h : order.Reflects seen) (hperm : seen.Perm seen') :
    order.Reflects seen' where
  wellFormed := h.wellFormed
  status_observed := fun status hstatus => by
    simpa only [hperm.mem_iff] using h.status_observed status hstatus
  status_latest := fun result hmem => h.status_latest result (hperm.mem_iff.mpr hmem)
  id_observed := fun id hid => by simpa only [hperm.mem_iff] using h.id_observed id hid
  id_known := fun result hmem => h.id_known result (hperm.mem_iff.mpr hmem)
  fills_seen := fun fill => by simpa only [hperm.mem_iff] using h.fills_seen fill

/-- The latest of the observed statuses is unique. -/
theorem Reflects.status_eq (ha : a.Reflects seen) (hb : b.Reflects seen) :
    a.status = b.status := by
  cases hstatus : a.status with
  | none =>
      cases hother : b.status with
      | none => rfl
      | some status =>
          obtain ⟨result, hmem, -⟩ := hb.status_observed status hother
          obtain ⟨known, hknown, -⟩ := ha.status_latest result hmem
          rw [hstatus] at hknown
          cases hknown
  | some status =>
      obtain ⟨result, hmem, rfl⟩ := ha.status_observed status hstatus
      obtain ⟨later, hlater, hforward⟩ := hb.status_latest result hmem
      obtain ⟨other, hother, rfl⟩ := hb.status_observed later hlater
      obtain ⟨known, hknown, hback⟩ := ha.status_latest other hother
      rw [hstatus, Option.mem_some_iff] at hknown
      subst hknown
      rw [show b.status = some other.status from hlater, hforward.antisymm hback]

theorem Reflects.exchangeOrderId_eq (ha : a.Reflects seen) (hb : b.Reflects seen) :
    a.exchangeOrderId = b.exchangeOrderId := by
  cases hid : a.exchangeOrderId with
  | none =>
      cases hother : b.exchangeOrderId with
      | none => rfl
      | some id =>
          obtain ⟨result, hmem, heq⟩ := hb.id_observed id hother
          have := ha.id_known result hmem id heq
          rw [hid] at this
          cases this
  | some id =>
      obtain ⟨result, hmem, heq⟩ := ha.id_observed id hid
      exact (hb.id_known result hmem id heq).symm

/-- The same fills, stored in some sequence. -/
theorem Reflects.fills_perm (ha : a.Reflects seen) (hb : b.Reflects seen) :
    a.fills.Perm b.fills := by
  refine (List.perm_ext_iff_of_nodup ha.wellFormed.keys_nodup.of_map
    hb.wellFormed.keys_nodup.of_map).mpr fun fill => ?_
  rw [ha.fills_seen, hb.fills_seen]

/-! ## Aggregates -/

/-- Sums of the same values that lose no digit are equal. -/
theorem sum_eq_of_perm {xs ys : List (Fill ctx)} (hperm : xs.Perm ys) (value : Fill ctx → ℚ)
    (hx : ctx.SumExact (xs.map value)) (hy : ctx.SumExact (ys.map value)) :
    ctx.sum (xs.map value) = ctx.sum (ys.map value) := by
  rw [ctx.sum_eq_of_sumExact hx, ctx.sum_eq_of_sumExact hy]
  exact (hperm.map value).sum_eq

/-- Fee assets of aggregates of the same fills agree. -/
theorem aggregate_feeAsset_eq {xs ys : List (Fill ctx)} {x y : FillAggregate}
    (hperm : xs.Perm ys) (hx : aggregateFills xs = .ok x) (hy : aggregateFills ys = .ok y) :
    x.feeAsset = y.feeAsset := by
  obtain ⟨first, hfirst⟩ := List.exists_mem_of_ne_nil xs (aggregateFills_eq_ok hx).1
  rcases aggregateFills_feeAsset hx with ⟨asset, hasset, hall⟩ | ⟨hmixed, hnone, -⟩
  · rcases aggregateFills_feeAsset hy with ⟨asset', hasset', hall'⟩ | ⟨-, hnone', -⟩
    · rw [hasset, hasset', ← hall first hfirst, ← hall' first (hperm.mem_iff.mp hfirst)]
    · exact absurd ⟨asset, fun fill hfill => hall fill (hperm.mem_iff.mpr hfill)⟩ hnone'
  · rcases aggregateFills_feeAsset hy with ⟨asset', -, hall'⟩ | ⟨hmixed', -, -⟩
    · exact absurd ⟨asset', fun fill hfill => hall' fill (hperm.mem_iff.mp hfill)⟩ hnone
    · rw [hmixed, hmixed']

/-- Orders whose aggregates agree wherever no digit is lost. -/
structure AggregatesAgree (a b : Order ctx) : Prop where
  feeAsset : a.feeAsset = b.feeAsset
  quantity : ctx.SumExact (a.fills.map (·.quantity)) → ctx.SumExact (b.fills.map (·.quantity)) →
    a.filledQuantity = b.filledQuantity
  amount : ctx.SumExact (a.fills.map Fill.executedAmount) →
    ctx.SumExact (b.fills.map Fill.executedAmount) → a.filledAmount = b.filledAmount
  fee : ctx.SumExact (a.fills.map (·.feeAmount)) → ctx.SumExact (b.fills.map (·.feeAmount)) →
    a.feeAmount = b.feeAmount
  feeQuote : ctx.SumExact (a.fills.map (·.feeQuoteAmount)) →
    ctx.SumExact (b.fills.map (·.feeQuoteAmount)) → a.feeQuoteAmount = b.feeQuoteAmount

theorem Reflects.aggregatesAgree (ha : a.Reflects seen) (hb : b.Reflects seen) :
    AggregatesAgree a b := by
  have hperm := ha.fills_perm hb
  rcases ha.wellFormed.aggregate with ⟨hnil, a₁, a₂, -, a₄, a₅, a₆⟩ | ⟨x, hx, a₁, a₂, -, a₄, a₅, a₆⟩
  · rcases hb.wellFormed.aggregate with ⟨-, b₁, b₂, -, b₄, b₅, b₆⟩ | ⟨y, hy, -⟩
    · exact ⟨by rw [a₅, b₅], fun _ _ => by rw [a₁, b₁], fun _ _ => by rw [a₂, b₂],
        fun _ _ => by rw [a₄, b₄], fun _ _ => by rw [a₆, b₆]⟩
    · rw [hnil] at hperm
      exact absurd hperm.nil_eq.symm (aggregateFills_eq_ok hy).1
  · rcases hb.wellFormed.aggregate with ⟨hnil, -⟩ | ⟨y, hy, b₁, b₂, -, b₄, b₅, b₆⟩
    · rw [hnil] at hperm
      exact absurd hperm.eq_nil (aggregateFills_eq_ok hx).1
    · have hasset := aggregate_feeAsset_eq hperm hx hy
      obtain ⟨-, -, hxq, hxa, -, hxf, hxv⟩ := aggregateFills_eq_ok hx
      obtain ⟨-, -, hyq, hya, -, hyf, hyv⟩ := aggregateFills_eq_ok hy
      refine ⟨by rw [a₅, b₅, hasset], fun h h' => ?_, fun h h' => ?_, fun h h' => ?_,
        fun h h' => ?_⟩
      · rw [a₁, b₁, hxq, hyq, sum_eq_of_perm hperm _ h h']
      · rw [a₂, b₂, hxa, hya, sum_eq_of_perm hperm _ h h']
      · rw [a₄, b₄, hxf, hyf, hasset, sum_eq_of_perm hperm _ h h']
      · rw [a₆, b₆, hxv, hyv, sum_eq_of_perm hperm _ h h']

/-- Two sequences of the same results, each accepted in full, leave the order with the
same status, exchange order ID and fills, and with the same aggregates wherever the
sums lose no digit. -/
theorem converges {intent : OrderIntent} {first second : List (OrderResult ctx)}
    (hperm : first.Perm second)
    (ha : applyResults first (intent.order ctx) = .ok () a)
    (hb : applyResults second (intent.order ctx) = .ok () b) :
    a.status = b.status ∧ a.exchangeOrderId = b.exchangeOrderId ∧
      (∀ fill, fill ∈ a.fills ↔ fill ∈ b.fills) ∧ AggregatesAgree a b := by
  have hleft : a.Reflects second := (applyResults_reflects ha).1.of_perm hperm
  have hright : b.Reflects second := (applyResults_reflects hb).1
  exact ⟨hleft.status_eq hright, hleft.exchangeOrderId_eq hright,
    fun fill => (hleft.fills_perm hright).mem_iff, hleft.aggregatesAgree hright⟩

/-! ## Sums that do depend on the sequence -/

/-- A purchase of up to two ETH. -/
def tickIntent : OrderIntent where
  intentId := "intent"
  clientOrderId := "client"
  submissionAttempt := 0
  side := .buy
  strategy := .caseB
  regimeType := .type0
  requestedQuantity := 2
  submittedQuantity := 2
  marketPriceAtDecision := 1
  valid := by decide +kernel

/-- A report of one fill, at price one and without a fee, of an order still open. -/
def tickResult (tradeId : String) (quantity : ℚ) (hq : 0 < quantity) : OrderResult decimal128 where
  clientOrderId := "client"
  status := .partiallyFilled
  processedAt := 0
  exchangeOrderId := some "1"
  fills := [{
    exchangeOrderId := "1"
    tradeId
    quantity
    price := 1
    feeAmount := 0
    feeAsset := .usdt
    feeQuoteAmount := 0
    executedAt := 0
    valid := by simp [FillFields.validate, FillFields.validateFee, Except.require, hq] }]
  valid := by simp [OrderResultFields.validate, OrderResultFields.validateFailure, Except.require]

theorem tick_pos : (0 : ℚ) < 1 := one_pos

/-- One ETH, and twice half a unit of the thirty-third decimal place. -/
def tickResults : List (OrderResult decimal128) :=
  [tickResult "1" 1 tick_pos, tickResult "2" (5 / 10 ^ 34) (by norm_num),
    tickResult "3" (5 / 10 ^ 34) (by norm_num)]

/-- With 34 digits the filled quantity depends on the sequence: the halves vanish one by
one next to the whole, and count when they are added first. -/
theorem roundedSums_diverge :
    ∃ a b, tickResults.Perm tickResults.reverse ∧
      applyResults tickResults (tickIntent.order decimal128) = .ok () a ∧
      applyResults tickResults.reverse (tickIntent.order decimal128) = .ok () b ∧
      a.filledQuantity ≠ b.filledQuantity := by
  refine ⟨_, _, (List.reverse_perm _).symm, Stateful.eq_ok_of_returned (by decide +kernel),
    Stateful.eq_ok_of_returned (by decide +kernel), by decide +kernel⟩

/-- The first two of these results, in both sequences. -/
theorem converges_ticks :
    let open' := tickIntent.order decimal128
    let a := Stateful.finalState (applyResults (tickResults.take 2) open')
    let b := Stateful.finalState (applyResults (tickResults.take 2).reverse open')
    a.status = b.status ∧ a.exchangeOrderId = b.exchangeOrderId ∧
      (∀ fill, fill ∈ a.fills ↔ fill ∈ b.fills) ∧ AggregatesAgree a b :=
  converges (List.reverse_perm _).symm (Stateful.eq_ok_of_returned (by decide +kernel))
    (Stateful.eq_ok_of_returned (by decide +kernel))

end Order

end Trading
