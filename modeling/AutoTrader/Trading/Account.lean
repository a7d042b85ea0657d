import AutoTrader.Support.State
import AutoTrader.Trading.History.Wire

/-!
# The account

`Account` of `domain/trading/account.py`: the balances of the assets, the price the account
is valued at, and the time of the newest snapshot it took.

* `AccountSnapshot` — all balances, or a patch of some; no asset is named twice.
* `Account.applyFullSnapshot` — a full snapshot under one of three policies.
* `Account.applyStreamSnapshot` — a partial snapshot.
* `AccountCall.step` — what one call does to the account.
* `account_law` — versions, times, valuation and locality over every history.
* `stream_order_irrelevant` — simultaneous patches of different assets commute.
-/

namespace Trading

open Arithmetic

/-- `SUPPORTED_VALUATION_ASSET`. -/
def supportedValuationAsset : String := "ETH"

/-- `_validate_asset_name`: not empty, and no white space or control character. -/
def ValidAssetName (asset : String) : Prop :=
  asset ≠ "" ∧ ∀ c ∈ asset.toList, isSpace c = false ∧ 32 ≤ c.toNat

instance (asset : String) : Decidable (ValidAssetName asset) := by
  unfold ValidAssetName; infer_instance

/-- The balance of one asset. -/
structure AssetBalance where
  asset : String
  free : ℚ
  locked : ℚ
  asset_valid : ValidAssetName asset := by decide
  free_nonneg : 0 ≤ free := by decide
  locked_nonneg : 0 ≤ locked := by decide

instance : DecidableEq AssetBalance := fun a b =>
  decidable_of_iff (a.asset = b.asset ∧ a.free = b.free ∧ a.locked = b.locked) (by
    cases a
    cases b
    simp)

/-- All balances of an account, or a patch of some of them. -/
structure AccountSnapshot where
  balances : List AssetBalance
  updatedAt : Timestamp
  isFullSnapshot : Bool
  assets_nodup : (balances.map (·.asset)).Nodup := by decide

/-- A mapping from assets to balances; the order of its entries says nothing. -/
abbrev Balances := Finmap fun _ : String => AssetBalance

namespace AccountSnapshot

/-- `balances_by_asset`. -/
def balancesByAsset (snapshot : AccountSnapshot) : Balances :=
  snapshot.balances.foldl (fun balances balance => balances.insert balance.asset balance) ∅

/-- The balance the snapshot has for an asset. -/
def balanceOf (snapshot : AccountSnapshot) (asset : String) : Option AssetBalance :=
  snapshot.balances.find? fun balance => balance.asset == asset

/-- The snapshot has a balance for the asset. -/
def Names (snapshot : AccountSnapshot) (asset : String) : Prop :=
  asset ∈ snapshot.balances.map (·.asset)

end AccountSnapshot

/-- `AccountStateSnapshot`, the state of an account. -/
structure AccountState where
  balances : Balances := ∅
  currentPrice : Option ℚ := none
  valuation : Option ℚ := none
  updatedAt : Option Timestamp := none
  version : ℕ := 0
  ready : Bool := false

namespace Account

/-- A method of the account. -/
abbrev AccountM := EStateM TradingError AccountState

variable (ctx : DecimalContext)

/-- `AssetBalance.total`. -/
def total (balance : AssetBalance) : ℚ := ctx.add balance.free balance.locked

/-- `_calculate_valuation`. -/
def calculateValuation (balances : Balances) (currentPrice : ℚ) : ℚ :=
  match balances.lookup supportedValuationAsset with
  | none => 0
  | some balance => ctx.mul (total ctx balance) currentPrice

/-- A snapshot older than the state. -/
def isStale (snapshot : AccountSnapshot) (state : AccountState) : Bool :=
  state.updatedAt.any fun updatedAt => decide (snapshot.updatedAt < updatedAt)

/-- The full snapshot says what the state says. -/
def isRepeated (snapshot : AccountSnapshot) (currentPrice : ℚ) (state : AccountState) : Bool :=
  state.ready && decide (state.updatedAt = some snapshot.updatedAt) &&
    decide (state.balances = snapshot.balancesByAsset) &&
    decide (state.currentPrice = some currentPrice)

/-- The state that a full snapshot makes. -/
def fullState (snapshot : AccountSnapshot) (currentPrice : ℚ) (state : AccountState) :
    AccountState where
  balances := snapshot.balancesByAsset
  currentPrice := some currentPrice
  valuation := some (calculateValuation ctx snapshot.balancesByAsset currentPrice)
  updatedAt := some snapshot.updatedAt
  version := state.version + 1
  ready := true

/-- `_apply_full_snapshot`. -/
def applyFullSnapshot (snapshot : AccountSnapshot) (currentPrice : ℚ)
    (replaceStreamState ignoreStale : Bool) : AccountM Bool := do
  Stateful.raising (Except.require (snapshot.isFullSnapshot = true)
    (.valueError "initial snapshot must be a full snapshot"))
  Stateful.raising (Except.require (0 ≤ currentPrice)
    (.valueError "current_price must not be negative"))
  Stateful.raising (Except.require (currentPrice ≠ 0)
    (.valueError "current_price must be greater than zero"))
  let state ← get
  if isStale snapshot state && ignoreStale then pure false
  else do
    Stateful.raising (Except.require (isStale snapshot state = false ∨ replaceStreamState = true)
      (.valueError "initial account snapshot is stale"))
    if isRepeated snapshot currentPrice state then pure false
    else do
      set (fullState ctx snapshot currentPrice state)
      pure true

/-- `apply_initial_snapshot`. -/
def applyInitialSnapshot (snapshot : AccountSnapshot) (currentPrice : ℚ) : AccountM Bool :=
  applyFullSnapshot ctx snapshot currentPrice false false

/-- `apply_reconciliation_snapshot`. -/
def applyReconciliationSnapshot (snapshot : AccountSnapshot) (currentPrice : ℚ) :
    AccountM Bool :=
  applyFullSnapshot ctx snapshot currentPrice true false

/-- `apply_startup_reconciliation_snapshot`. -/
def applyStartupReconciliationSnapshot (snapshot : AccountSnapshot) (currentPrice : ℚ) :
    AccountM Bool :=
  applyFullSnapshot ctx snapshot currentPrice true true

/-- One balance of a patch: whether something changed so far, and the balances so far. -/
def patchOne (patched : Bool × Balances) (balance : AssetBalance) : Bool × Balances :=
  (patched.1 || decide (patched.2.lookup balance.asset ≠ some balance),
    patched.2.insert balance.asset balance)

/-- The loop of `apply_stream_snapshot`. -/
def patch (balances : Balances) (snapshot : AccountSnapshot) : Bool × Balances :=
  snapshot.balances.foldl patchOne (false, balances)

/-- The state that a partial snapshot makes. -/
def patchedState (snapshot : AccountSnapshot) (currentPrice : ℚ) (state : AccountState) :
    AccountState where
  balances := (patch state.balances snapshot).2
  currentPrice := some currentPrice
  valuation := some (calculateValuation ctx (patch state.balances snapshot).2 currentPrice)
  updatedAt := some snapshot.updatedAt
  version := state.version + 1
  ready := true

/-- `apply_stream_snapshot`. -/
def applyStreamSnapshot (snapshot : AccountSnapshot) : AccountM Bool := do
  Stateful.raising (Except.require (snapshot.isFullSnapshot = false)
    (.valueError "stream snapshot must be a partial snapshot"))
  let state ← get
  match state.updatedAt with
  | none => throw (.runtimeError "initial account snapshot is not ready")
  | some updatedAt => do
      Stateful.raising (Except.require (state.ready = true)
        (.runtimeError "initial account snapshot is not ready"))
      match state.currentPrice with
      | none => throw (.runtimeError "initial account price is not ready")
      | some currentPrice =>
          if snapshot.updatedAt < updatedAt then pure false
          else if (patch state.balances snapshot).1 = false ∧ snapshot.updatedAt = updatedAt then
            pure false
          else do
            set (patchedState ctx snapshot currentPrice state)
            pure true

/-! ## What one call does -/

variable {ctx}

/-- A full snapshot is refused, ignored, or becomes the state. -/
theorem applyFullSnapshot_cases (ctx : DecimalContext) (snapshot : AccountSnapshot)
    (currentPrice : ℚ) (replaceStreamState ignoreStale : Bool) (state : AccountState) :
    (∃ error, applyFullSnapshot ctx snapshot currentPrice replaceStreamState ignoreStale state =
        .error error state) ∨
      applyFullSnapshot ctx snapshot currentPrice replaceStreamState ignoreStale state =
        .ok false state ∨
      (applyFullSnapshot ctx snapshot currentPrice replaceStreamState ignoreStale state =
          .ok true (fullState ctx snapshot currentPrice state) ∧
        (isStale snapshot state = false ∨
          replaceStreamState = true ∧ ignoreStale = false)) := by
  unfold applyFullSnapshot Except.require
  by_cases hfull : snapshot.isFullSnapshot = true
  · by_cases hnonneg : 0 ≤ currentPrice
    · by_cases hzero : currentPrice ≠ 0
      · simp only [if_pos hfull, if_pos hnonneg, if_pos hzero, Stateful.bind_run,
          Stateful.raising_ok, Stateful.get_run]
        by_cases hignored : (isStale snapshot state && ignoreStale) = true
        · rw [if_pos hignored]
          exact .inr (.inl rfl)
        · rw [if_neg hignored]
          by_cases hallowed : isStale snapshot state = false ∨ replaceStreamState = true
          · simp only [if_pos hallowed, Stateful.bind_run, Stateful.raising_ok]
            split
            · exact .inr (.inl rfl)
            · refine .inr (.inr ⟨rfl, ?_⟩)
              rcases hallowed with hfresh | hreplace
              · exact .inl hfresh
              · cases hstale : isStale snapshot state with
                | false => exact .inl rfl
                | true =>
                    rw [hstale, Bool.true_and, Bool.not_eq_true] at hignored
                    exact .inr ⟨hreplace, hignored⟩
          · simp only [if_neg hallowed]
            exact .inl ⟨_, rfl⟩
      · simp only [if_pos hfull, if_pos hnonneg, if_neg hzero]
        exact .inl ⟨_, rfl⟩
    · simp only [if_pos hfull, if_neg hnonneg]
      exact .inl ⟨_, rfl⟩
  · simp only [if_neg hfull]
    exact .inl ⟨_, rfl⟩

/-- The account is ready, and a snapshot of this time is not too old for it. -/
def Accepts (state : AccountState) (time : Timestamp) : Prop :=
  state.ready = true ∧ state.currentPrice.isSome ∧ ∃ updatedAt ∈ state.updatedAt, updatedAt ≤ time

/-- A partial snapshot that the account does not accept changes nothing; an accepted one
becomes a patch unless it says nothing new. -/
theorem applyStreamSnapshot_cases (ctx : DecimalContext) (snapshot : AccountSnapshot)
    (state : AccountState) :
    (¬ (snapshot.isFullSnapshot = false ∧ Accepts state snapshot.updatedAt) ∧
      ((∃ error, applyStreamSnapshot ctx snapshot state = .error error state) ∨
        applyStreamSnapshot ctx snapshot state = .ok false state)) ∨
    (Accepts state snapshot.updatedAt ∧ (patch state.balances snapshot).1 = false ∧
      state.updatedAt = some snapshot.updatedAt ∧
      applyStreamSnapshot ctx snapshot state = .ok false state) ∨
    (Accepts state snapshot.updatedAt ∧ ∃ currentPrice ∈ state.currentPrice,
      applyStreamSnapshot ctx snapshot state =
        .ok true (patchedState ctx snapshot currentPrice state)) := by
  unfold applyStreamSnapshot Except.require
  by_cases hfull : snapshot.isFullSnapshot = false
  · simp only [if_pos hfull, Stateful.bind_run, Stateful.raising_ok, Stateful.get_run]
    cases htime : state.updatedAt with
    | none =>
        refine .inl ⟨?_, .inl ⟨_, rfl⟩⟩
        rintro ⟨-, -, -, updatedAt, hmem, -⟩
        rw [htime] at hmem
        cases hmem
    | some updatedAt =>
        by_cases hready : state.ready = true
        · simp only [if_pos hready, Stateful.bind_run, Stateful.raising_ok]
          cases hprice : state.currentPrice with
          | none =>
              refine .inl ⟨?_, .inl ⟨_, rfl⟩⟩
              rintro ⟨-, -, hsome, -⟩
              rw [hprice] at hsome
              cases hsome
          | some currentPrice =>
              dsimp only
              by_cases hold : snapshot.updatedAt < updatedAt
              · rw [if_pos hold]
                refine .inl ⟨?_, .inr rfl⟩
                rintro ⟨-, -, -, other, hmem, hle⟩
                rw [htime] at hmem
                cases hmem
                exact absurd hold (not_lt.mpr hle)
              · have haccepts : Accepts state snapshot.updatedAt :=
                  ⟨hready, by rw [hprice]; rfl, updatedAt, htime, not_lt.mp hold⟩
                rw [if_neg hold]
                by_cases hnew : (patch state.balances snapshot).1 = false ∧
                    snapshot.updatedAt = updatedAt
                · rw [if_pos hnew]
                  exact .inr (.inl ⟨haccepts, hnew.1, by rw [hnew.2], rfl⟩)
                · rw [if_neg hnew]
                  exact .inr (.inr ⟨haccepts, currentPrice, rfl, rfl⟩)
        · simp only [if_neg hready]
          exact .inl ⟨fun h => hready h.2.1, .inl ⟨_, rfl⟩⟩
  · simp only [if_neg hfull]
    exact .inl ⟨fun h => hfull h.1, .inl ⟨_, rfl⟩⟩

/-! ## Patches -/

theorem patchOne_eq_of_unchanged {patched : Bool × Balances} {balance : AssetBalance}
    (h : (patchOne patched balance).1 = false) : patchOne patched balance = patched := by
  obtain ⟨changed, balances⟩ := patched
  obtain ⟨rfl, hsame⟩ := Bool.or_eq_false_iff.mp h
  have hlookup : balances.lookup balance.asset = some balance := by
    simpa only [decide_eq_false_iff_not, ne_eq, not_not] using hsame
  refine Prod.ext h (Finmap.ext_lookup fun asset => ?_)
  by_cases hasset : asset = balance.asset
  · subst hasset
    exact (Finmap.lookup_insert _).trans hlookup.symm
  · exact Finmap.lookup_insert_of_ne _ hasset

theorem patchOne_fst_of_true {patched : Bool × Balances} {balance : AssetBalance}
    (h : patched.1 = true) : (patchOne patched balance).1 = true := by
  unfold patchOne
  rw [h]
  rfl

theorem foldl_patchOne_fst_of_true {patched : Bool × Balances} {balances : List AssetBalance}
    (h : patched.1 = true) : (balances.foldl patchOne patched).1 = true := by
  induction balances generalizing patched with
  | nil => exact h
  | cons balance balances ih => exact ih (patchOne_fst_of_true h)

/-- A loop that noticed no change made none. -/
theorem foldl_patchOne_eq_of_unchanged {patched : Bool × Balances}
    {balances : List AssetBalance} (h : (balances.foldl patchOne patched).1 = false) :
    balances.foldl patchOne patched = patched := by
  induction balances generalizing patched with
  | nil => rfl
  | cons balance balances ih =>
      rw [List.foldl_cons] at h ⊢
      have hone : (patchOne patched balance).1 = false := by
        rw [← Bool.not_eq_true]
        intro htrue
        rw [foldl_patchOne_fst_of_true htrue] at h
        cases h
      rw [ih h, patchOne_eq_of_unchanged hone]

theorem patch_eq_of_unchanged {balances : Balances} {snapshot : AccountSnapshot}
    (h : (patch balances snapshot).1 = false) : (patch balances snapshot).2 = balances :=
  congrArg Prod.snd (foldl_patchOne_eq_of_unchanged h)

/-- What the loop does to the balance of one asset. -/
theorem lookup_foldl_patchOne (asset : String) (patched : Bool × Balances)
    (balances : List AssetBalance) (hnodup : (balances.map (·.asset)).Nodup) :
    (balances.foldl patchOne patched).2.lookup asset =
      ((balances.find? fun balance => balance.asset == asset).or
        (patched.2.lookup asset)) := by
  induction balances generalizing patched with
  | nil => rfl
  | cons balance balances ih =>
      rw [List.map_cons, List.nodup_cons] at hnodup
      rw [List.foldl_cons, ih _ hnodup.2, List.find?_cons]
      by_cases hasset : balance.asset = asset
      · -- no later entry names the asset
        have hnone : (balances.find? fun other => other.asset == asset) = none := by
          refine List.find?_eq_none.mpr fun other hother heq => hnodup.1 ?_
          rw [hasset, ← beq_iff_eq.mp heq]
          exact List.mem_map_of_mem hother
        rw [hnone, Option.none_or, beq_iff_eq.mpr hasset, Option.some_or, ← hasset]
        exact Finmap.lookup_insert _
      · rw [beq_eq_false_iff_ne.mpr hasset]
        refine congrArg _ ?_
        exact Finmap.lookup_insert_of_ne _ fun h => hasset h.symm

/-- A patch sets the balances it names and keeps all others. -/
theorem lookup_patch (asset : String) (balances : Balances) (snapshot : AccountSnapshot) :
    (patch balances snapshot).2.lookup asset =
      (snapshot.balanceOf asset).or (balances.lookup asset) :=
  lookup_foldl_patchOne asset (false, balances) snapshot.balances snapshot.assets_nodup

theorem balanceOf_eq_none_iff {snapshot : AccountSnapshot} {asset : String} :
    snapshot.balanceOf asset = none ↔ ¬ snapshot.Names asset := by
  unfold AccountSnapshot.balanceOf AccountSnapshot.Names
  rw [List.find?_eq_none, List.mem_map]
  simp only [beq_iff_eq, not_exists, not_and]

/-- No asset is named by both. -/
def DisjointAssets (first second : AccountSnapshot) : Prop :=
  ∀ asset, ¬ (first.Names asset ∧ second.Names asset)

instance : Std.Symm DisjointAssets where
  symm _ _ h asset hboth := h asset ⟨hboth.2, hboth.1⟩

theorem patch_comm {first second : AccountSnapshot} (h : DisjointAssets first second)
    (balances : Balances) :
    (patch (patch balances first).2 second).2 = (patch (patch balances second).2 first).2 := by
  refine Finmap.ext_lookup fun asset => ?_
  rw [lookup_patch, lookup_patch, lookup_patch, lookup_patch]
  by_cases hfirst : first.Names asset
  · rw [balanceOf_eq_none_iff.mpr fun hsecond => h asset ⟨hfirst, hsecond⟩, Option.none_or,
      Option.none_or]
  · rw [balanceOf_eq_none_iff.mpr hfirst, Option.none_or, Option.none_or]

/-! ## Histories -/

/-- A call that applies a snapshot. -/
inductive AccountCall where
  | full (snapshot : AccountSnapshot) (currentPrice : ℚ) (replaceStreamState ignoreStale : Bool)
  | stream (snapshot : AccountSnapshot)

namespace AccountCall

/-- The call itself. -/
def run (ctx : DecimalContext) : AccountCall → AccountM Bool
  | full snapshot currentPrice replaceStreamState ignoreStale =>
      applyFullSnapshot ctx snapshot currentPrice replaceStreamState ignoreStale
  | stream snapshot => applyStreamSnapshot ctx snapshot

@[simp] theorem run_full (ctx : DecimalContext) (snapshot : AccountSnapshot) (currentPrice : ℚ)
    (replaceStreamState ignoreStale : Bool) (state : AccountState) :
    (full snapshot currentPrice replaceStreamState ignoreStale).run ctx state =
      applyFullSnapshot ctx snapshot currentPrice replaceStreamState ignoreStale state := rfl

@[simp] theorem run_stream (ctx : DecimalContext) (snapshot : AccountSnapshot)
    (state : AccountState) :
    (stream snapshot).run ctx state = applyStreamSnapshot ctx snapshot state := rfl

/-- A full reconciliation, which puts the snapshot in the place of the stream's state. -/
def replacesStreamState : AccountCall → Bool
  | full _ _ replaceStreamState ignoreStale => replaceStreamState && !ignoreStale
  | stream _ => false

end AccountCall

/-- The call returned `True`. -/
def returnedTrue : EStateM.Result TradingError AccountState Bool → Bool
  | .ok value _ => value
  | .error _ _ => false

/-- The account after a history of calls, some of which may have raised. -/
def after (ctx : DecimalContext) (calls : List AccountCall) : AccountState :=
  Stateful.runAll (calls.map (AccountCall.run ctx)) {}

/-- The valuation is that of the stored balances at the stored price. -/
def Valued (ctx : DecimalContext) (state : AccountState) : Prop :=
  state.valuation = state.currentPrice.map (calculateValuation ctx state.balances)

/-- What one call does to an account: `changed` says whether it returned `True`. -/
structure AccountStep (ctx : DecimalContext) (call : AccountCall) (state next : AccountState)
    (changed : Bool) : Prop where
  version : next.version = if changed then state.version + 1 else state.version
  unchanged : changed = false → next = state
  updatedAt : ∀ before ∈ state.updatedAt, ∃ later ∈ next.updatedAt,
    before ≤ later ∨ call.replacesStreamState = true
  named : ∀ snapshot, call = .stream snapshot → changed = true → ∀ asset, snapshot.Names asset →
    next.balances.lookup asset = snapshot.balanceOf asset
  unnamed : ∀ snapshot, call = .stream snapshot → ∀ asset, ¬ snapshot.Names asset →
    next.balances.lookup asset = state.balances.lookup asset
  replaced : ∀ snapshot currentPrice replaceStreamState ignoreStale,
    call = .full snapshot currentPrice replaceStreamState ignoreStale → changed = true →
    next.balances = snapshot.balancesByAsset
  valued : Valued ctx state → Valued ctx next

theorem AccountStep.refl (call : AccountCall) (state : AccountState) :
    AccountStep ctx call state state false where
  version := rfl
  unchanged _ := rfl
  updatedAt before h := ⟨before, h, .inl le_rfl⟩
  named _ _ h := by cases h
  unnamed _ _ _ _ := rfl
  replaced _ _ _ _ _ h := by cases h
  valued h := h

theorem le_of_not_stale {snapshot : AccountSnapshot} {state : AccountState} {before : Timestamp}
    (h : isStale snapshot state = false) (hbefore : before ∈ state.updatedAt) :
    before ≤ snapshot.updatedAt := by
  unfold isStale at h
  rw [Option.mem_def.mp hbefore, Option.any_some, decide_eq_false_iff_not] at h
  exact not_lt.mp h

/-- A full snapshot that became the state. -/
theorem fullState_step {snapshot : AccountSnapshot} {currentPrice : ℚ}
    {replaceStreamState ignoreStale : Bool} {state : AccountState}
    (h : isStale snapshot state = false ∨ replaceStreamState = true ∧ ignoreStale = false) :
    AccountStep ctx (.full snapshot currentPrice replaceStreamState ignoreStale) state
      (fullState ctx snapshot currentPrice state) true where
  version := rfl
  unchanged h := by cases h
  updatedAt before hbefore := by
    refine ⟨snapshot.updatedAt, rfl, ?_⟩
    rcases h with hfresh | ⟨hreplace, hignore⟩
    · exact .inl (le_of_not_stale hfresh hbefore)
    · exact .inr (by simp only [AccountCall.replacesStreamState, hreplace, hignore, Bool.not_false,
        Bool.and_self])
  named _ h := by cases h
  unnamed _ h := by cases h
  replaced _ _ _ _ heq _ := by
    cases heq
    rfl
  valued _ := rfl

/-- A patch sets the balance of every asset that it names. -/
theorem lookup_patch_of_names {snapshot : AccountSnapshot} {asset : String}
    (h : snapshot.Names asset) (balances : Balances) :
    (patch balances snapshot).2.lookup asset = snapshot.balanceOf asset := by
  have hsome := mt balanceOf_eq_none_iff.mp (not_not.mpr h)
  obtain ⟨balance, hbalance⟩ := Option.ne_none_iff_exists'.mp hsome
  rw [lookup_patch, hbalance, Option.some_or]

/-- A patch that became the state. -/
theorem patchedState_step {snapshot : AccountSnapshot} {currentPrice : ℚ} {state : AccountState}
    (haccepts : Accepts state snapshot.updatedAt) :
    AccountStep ctx (.stream snapshot) state (patchedState ctx snapshot currentPrice state)
      true where
  version := rfl
  unchanged h := by cases h
  updatedAt before hbefore := by
    obtain ⟨-, -, updatedAt, hmem, hle⟩ := haccepts
    obtain rfl := Option.mem_unique hbefore hmem
    exact ⟨snapshot.updatedAt, rfl, .inl hle⟩
  named other heq _ asset hnames := by
    cases heq
    exact lookup_patch_of_names hnames _
  unnamed other heq asset hnames := by
    cases heq
    show (patch state.balances snapshot).2.lookup asset = _
    rw [lookup_patch, balanceOf_eq_none_iff.mpr hnames, Option.none_or]
  replaced _ _ _ _ h := by cases h
  valued _ := rfl

theorem accountStep_run (call : AccountCall) (state : AccountState) :
    AccountStep ctx call state (Stateful.finalState (call.run ctx state))
      (returnedTrue (call.run ctx state)) := by
  cases call with
  | full snapshot currentPrice replaceStreamState ignoreStale =>
      rw [AccountCall.run_full]
      rcases applyFullSnapshot_cases ctx snapshot currentPrice replaceStreamState
        ignoreStale state with ⟨error, hrun⟩ | hrun | ⟨hrun, hallowed⟩
      · rw [hrun]
        exact .refl _ state
      · rw [hrun]
        exact .refl _ state
      · rw [hrun]
        exact fullState_step hallowed
  | stream snapshot =>
      rw [AccountCall.run_stream]
      rcases applyStreamSnapshot_cases ctx snapshot state with
        ⟨-, ⟨error, hrun⟩ | hrun⟩ | ⟨-, -, -, hrun⟩ | ⟨haccepts, currentPrice, -, hrun⟩
      · rw [hrun]
        exact .refl _ state
      · rw [hrun]
        exact .refl _ state
      · rw [hrun]
        exact .refl _ state
      · rw [hrun]
        exact patchedState_step haccepts

theorem after_append (calls more : List AccountCall) :
    after ctx (calls ++ more) =
      Stateful.runAll (more.map (AccountCall.run ctx)) (after ctx calls) := by
  unfold after Stateful.runAll
  rw [List.map_append, List.foldl_append]

theorem version_le_runAll (calls : List AccountCall) (state : AccountState) :
    state.version ≤ (Stateful.runAll (calls.map (AccountCall.run ctx)) state).version := by
  induction calls generalizing state with
  | nil => exact le_rfl
  | cons call calls ih =>
      refine le_trans ?_ (ih (Stateful.finalState (call.run ctx state)))
      rw [(accountStep_run call state).version]
      split
      · exact Nat.le_succ _
      · exact le_rfl

theorem valued_after (calls : List AccountCall) : Valued ctx (after ctx calls) := by
  have hrun : ∀ (calls : List AccountCall) (state : AccountState), Valued ctx state →
      Valued ctx (Stateful.runAll (calls.map (AccountCall.run ctx)) state) := by
    intro calls
    induction calls with
    | nil => exact fun state h => h
    | cons call calls ih =>
        exact fun state h => ih _ ((accountStep_run call state).valued h)
  exact hrun calls {} rfl

/-! ## Simultaneous patches -/

/-- An accepted patch sets the balances, also when it says nothing new. -/
theorem stream_of_accepts (ctx : DecimalContext) {snapshot : AccountSnapshot} {state : AccountState}
    (hpatch : snapshot.isFullSnapshot = false) (h : Accepts state snapshot.updatedAt) :
    (Stateful.finalState (applyStreamSnapshot ctx snapshot state)).balances =
        (patch state.balances snapshot).2 ∧
      Accepts (Stateful.finalState (applyStreamSnapshot ctx snapshot state))
        snapshot.updatedAt := by
  rcases applyStreamSnapshot_cases ctx snapshot state with
    ⟨hnot, -⟩ | ⟨-, hsame, -, hrun⟩ | ⟨-, currentPrice, -, hrun⟩
  · exact absurd ⟨hpatch, h⟩ hnot
  · rw [hrun]
    exact ⟨(patch_eq_of_unchanged hsame).symm, h⟩
  · rw [hrun]
    exact ⟨rfl, rfl, rfl, snapshot.updatedAt, rfl, le_rfl⟩

theorem stream_of_not_accepts (ctx : DecimalContext) {snapshot : AccountSnapshot}
    {state : AccountState}
    (h : ¬ Accepts state snapshot.updatedAt) :
    Stateful.finalState (applyStreamSnapshot ctx snapshot state) = state := by
  rcases applyStreamSnapshot_cases ctx snapshot state with
    ⟨-, ⟨error, hrun⟩ | hrun⟩ | ⟨haccepts, -⟩ | ⟨haccepts, -⟩
  · rw [hrun]
    rfl
  · rw [hrun]
    rfl
  · exact absurd haccepts h
  · exact absurd haccepts h

/-- The account after a list of patches. -/
def afterStream (ctx : DecimalContext) (snapshots : List AccountSnapshot) (state : AccountState) :
    AccountState :=
  Stateful.runAll (snapshots.map (applyStreamSnapshot ctx)) state

/-- Patches of one time: all of them are accepted or none is. -/
theorem balances_afterStream {time : Timestamp} {snapshots : List AccountSnapshot}
    (hsnapshots : ∀ snapshot ∈ snapshots,
      snapshot.isFullSnapshot = false ∧ snapshot.updatedAt = time) (state : AccountState) :
    (Accepts state time → (afterStream ctx snapshots state).balances =
        snapshots.foldl (fun balances snapshot => (patch balances snapshot).2) state.balances) ∧
      (¬ Accepts state time → afterStream ctx snapshots state = state) := by
  induction snapshots generalizing state with
  | nil => exact ⟨fun _ => rfl, fun _ => rfl⟩
  | cons snapshot snapshots ih =>
      obtain ⟨hpatch, htime⟩ := hsnapshots snapshot List.mem_cons_self
      have hrest := fun next => ih (fun other hother =>
        hsnapshots other (List.mem_cons_of_mem _ hother)) next
      constructor
      · intro haccepts
        have hone := stream_of_accepts ctx hpatch (htime ▸ haccepts)
        rw [List.foldl_cons, ← hone.1]
        exact (hrest _).1 (htime ▸ hone.2)
      · intro hrefused
        have hone := @stream_of_not_accepts ctx snapshot _
          (htime ▸ hrefused : ¬ Accepts state snapshot.updatedAt)
        calc afterStream ctx (snapshot :: snapshots) state
            = afterStream ctx snapshots
                (Stateful.finalState (applyStreamSnapshot ctx snapshot state)) := rfl
          _ = afterStream ctx snapshots state := by rw [hone]
          _ = state := (hrest state).2 hrefused

/-- Patches of one time that name different assets may come in any order. -/
theorem stream_order_irrelevant {time : Timestamp} {first second : List AccountSnapshot}
    (hperm : first.Perm second)
    (hfirst : ∀ snapshot ∈ first, snapshot.isFullSnapshot = false ∧ snapshot.updatedAt = time)
    (hdisjoint : first.Pairwise DisjointAssets) (state : AccountState) :
    (afterStream ctx first state).balances = (afterStream ctx second state).balances := by
  have hsecond : ∀ snapshot ∈ second,
      snapshot.isFullSnapshot = false ∧ snapshot.updatedAt = time :=
    fun snapshot hmem => hfirst snapshot (hperm.mem_iff.mpr hmem)
  by_cases haccepts : Accepts state time
  · rw [(balances_afterStream hfirst state).1 haccepts,
      (balances_afterStream hsecond state).1 haccepts]
    refine hperm.foldl_eq' (fun x hx y hy balances => ?_) state.balances
    by_cases heq : x = y
    · rw [heq]
    · exact patch_comm (hdisjoint.forall hx hy heq) balances
  · rw [(balances_afterStream hfirst state).2 haccepts,
      (balances_afterStream hsecond state).2 haccepts]

/-- What holds of an account over every history of snapshots. -/
theorem account_law (ctx : DecimalContext) (calls : List AccountCall) :
    (∀ call, AccountStep ctx call (after ctx calls)
      (Stateful.finalState (call.run ctx (after ctx calls)))
      (returnedTrue (call.run ctx (after ctx calls)))) ∧
    (∀ more, (after ctx calls).version ≤ (after ctx (calls ++ more)).version) ∧
    Valued ctx (after ctx calls) ∧
    (∀ snapshot : AccountSnapshot, snapshot.isFullSnapshot = false →
      Accepts (after ctx calls) snapshot.updatedAt → ∀ asset, snapshot.Names asset →
      (after ctx (calls ++ [.stream snapshot])).balances.lookup asset =
        snapshot.balanceOf asset) ∧
    (∀ (time : Timestamp) (first second : List AccountSnapshot), first.Perm second →
      (∀ snapshot ∈ first, snapshot.isFullSnapshot = false ∧ snapshot.updatedAt = time) →
      first.Pairwise DisjointAssets →
      (after ctx (calls ++ first.map .stream)).balances =
        (after ctx (calls ++ second.map .stream)).balances) := by
  refine ⟨fun call => accountStep_run call _, fun more => ?_, valued_after calls, ?_, ?_⟩
  · rw [after_append]
    exact version_le_runAll more _
  · intro snapshot hpatch haccepts asset hnames
    have htaken := (stream_of_accepts ctx hpatch haccepts).1
    calc (after ctx (calls ++ [.stream snapshot])).balances.lookup asset
        = (Stateful.finalState
            (applyStreamSnapshot ctx snapshot (after ctx calls))).balances.lookup asset := by
          rw [after_append]
          rfl
      _ = (patch (after ctx calls).balances snapshot).2.lookup asset := by rw [htaken]
      _ = snapshot.balanceOf asset := lookup_patch_of_names hnames _
  · intro time first second hperm hfirst hdisjoint
    have hstream : ∀ snapshots : List AccountSnapshot,
        after ctx (calls ++ snapshots.map .stream) =
          afterStream ctx snapshots (after ctx calls) := by
      intro snapshots
      rw [after_append, List.map_map]
      rfl
    rw [hstream, hstream]
    exact stream_order_irrelevant hperm hfirst hdisjoint _

theorem validAssetName_eth : ValidAssetName "ETH" := by simp [ValidAssetName, isSpace]

theorem validAssetName_usdt : ValidAssetName "USDT" := by simp [ValidAssetName, isSpace]

theorem nothing_nonneg : (0 : ℚ) ≤ 0 := le_rfl

theorem unit_nonneg : (0 : ℚ) ≤ 1 := zero_le_one

/-- All balances at startup. -/
def openingSnapshot : AccountSnapshot where
  balances :=
    [⟨"ETH", 0, 0, validAssetName_eth, nothing_nonneg, nothing_nonneg⟩,
      ⟨"USDT", 1, 0, validAssetName_usdt, unit_nonneg, nothing_nonneg⟩]
  updatedAt := 5
  isFullSnapshot := true

/-- A stream report of one ETH that is silent about the quote balance. -/
def boughtSnapshot : AccountSnapshot where
  balances := [⟨"ETH", 1, 0, validAssetName_eth, unit_nonneg, nothing_nonneg⟩]
  updatedAt := 6
  isFullSnapshot := false

/-- The account starts with all balances. -/
def openingCalls : List AccountCall := [.full openingSnapshot 2000 false false]

/-- The report sets the asset it names and keeps the other; the valuation follows. -/
theorem account_law_bought :
    let bought := after DecimalContext.exact (openingCalls ++ [.stream boughtSnapshot])
    bought.balances.lookup "ETH" = boughtSnapshot.balanceOf "ETH" ∧
      bought.balances.lookup "USDT" = openingSnapshot.balanceOf "USDT" ∧
      Valued DecimalContext.exact bought ∧ bought.valuation = some 2000 := by
  intro bought
  obtain ⟨hstep, -, -, hset, -⟩ := account_law DecimalContext.exact openingCalls
  have hopen := (account_law DecimalContext.exact []).1 (.full openingSnapshot 2000 false false)
  have hready : Accepts (after DecimalContext.exact openingCalls) boughtSnapshot.updatedAt :=
    ⟨by decide +kernel, by decide +kernel, 5, by decide +kernel, by decide⟩
  refine ⟨hset boughtSnapshot rfl hready "ETH" List.mem_cons_self, ?_, ?_, by decide +kernel⟩
  · have hunnamed : ¬ boughtSnapshot.Names "USDT" := by
      unfold AccountSnapshot.Names
      decide
    calc bought.balances.lookup "USDT"
        = (after DecimalContext.exact openingCalls).balances.lookup "USDT" :=
          (hstep (.stream boughtSnapshot)).unnamed boughtSnapshot rfl "USDT" hunnamed
      _ = openingSnapshot.balancesByAsset.lookup "USDT" := by
          rw [← hopen.replaced openingSnapshot 2000 false false rfl (by decide +kernel)]
          rfl
      _ = openingSnapshot.balanceOf "USDT" := by decide +kernel
  · exact (account_law DecimalContext.exact (openingCalls ++ [.stream boughtSnapshot])).2.2.1

end Account

end Trading
