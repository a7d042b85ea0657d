import Mathlib

/-!
# Versions, checkpoints and restores

A state with a version that every change raises, except that an earlier state may be
restored with its version.  After a restore to a lower version a number is used a second
time, so two states with one version need not agree; they do unless the earlier was undone.

* `Follows` — the version did not go down, and an equal version means equal contents.
* `Call` — an operation, the creation of a checkpoint, or the restore of one.
* `Undone` — between two moments a checkpoint was restored that is older than the first and
  is not what the first shows, or something newer.
* `follows_of_not_undone` — two moments without such a restore between them.
-/

namespace Checkpoints

universe u v w

variable {σ : Type u} {ω : Type v} {γ : Type w} (version : σ → ℕ) (content : σ → γ)

/-- The version did not go down, and where it stayed the contents did. -/
structure Follows (earlier later : σ) : Prop where
  version_le : version earlier ≤ version later
  content_eq : version earlier = version later → content earlier = content later

variable {version content}

theorem Follows.refl (s : σ) : Follows version content s s := ⟨le_rfl, fun _ => rfl⟩

theorem Follows.trans {a b c : σ} (hab : Follows version content a b)
    (hbc : Follows version content b c) : Follows version content a c := by
  refine ⟨hab.version_le.trans hbc.version_le, fun heq => ?_⟩
  have hfirst : version a = version b :=
    le_antisymm hab.version_le (hbc.version_le.trans heq.ge)
  exact (hab.content_eq hfirst).trans (hbc.content_eq (hfirst.symm.trans heq))

/-- A change that raises the version. -/
theorem Follows.of_lt {a b : σ} (h : version a < version b) : Follows version content a b :=
  ⟨h.le, fun heq => absurd heq h.ne⟩

/-! ## Histories -/

/-- One call of a history. -/
inductive Call (ω : Type v) where
  | operate (operation : ω)
  | createCheckpoint
  /-- The checkpoint with this number, counted from the first one created. -/
  | restoreCheckpoint (number : ℕ)
  deriving DecidableEq

/-- The state, and the checkpoints made so far. -/
structure Store (σ : Type u) where
  current : σ
  checkpoints : List σ := []

variable (step : σ → ω → σ)

/-- The store after a call.  A checkpoint that was never made cannot be restored. -/
def Store.call (store : Store σ) : Call ω → Store σ
  | .operate operation => { store with current := step store.current operation }
  | .createCheckpoint => { store with checkpoints := store.checkpoints ++ [store.current] }
  | .restoreCheckpoint number =>
      { store with current := store.checkpoints[number]?.getD store.current }

/-- The store after a history. -/
def Store.run (store : Store σ) (calls : List (Call ω)) : Store σ :=
  calls.foldl (Store.call step) store

/-- The calls restore a checkpoint from before the store, with a lower version, or with the
version of the store and other contents. -/
def Undone (version : σ → ℕ) (content : σ → γ) (store : Store σ) (calls : List (Call ω)) : Prop :=
  ∃ number saved, Call.restoreCheckpoint number ∈ calls ∧
    store.checkpoints[number]? = some saved ∧ ¬ Follows version content store.current saved

/-- What holds of every store after `first`, as long as `first` is not undone: the state
and every checkpoint that is newer follow it, and the older checkpoints are still there. -/
structure After (version : σ → ℕ) (content : σ → γ) (first store : Store σ) : Prop where
  current : Follows version content first.current store.current
  checkpoints : ∀ number saved, first.checkpoints.length ≤ number →
    store.checkpoints[number]? = some saved → Follows version content first.current saved
  older : first.checkpoints.IsPrefix store.checkpoints

theorem After.refl (store : Store σ) : After version content store store := by
  refine ⟨.refl _, fun number saved hnumber hsaved => ?_, List.prefix_refl _⟩
  rw [List.getElem?_eq_none hnumber] at hsaved
  cases hsaved

/-- A saved state that may be restored follows the first moment. -/
theorem After.saved {first store : Store σ} (h : After version content first store) {number : ℕ}
    {saved : σ} (hsaved : store.checkpoints[number]? = some saved)
    (hkept : ∀ older, first.checkpoints[number]? = some older →
      Follows version content first.current older) :
    Follows version content first.current saved := by
  rcases Nat.lt_or_ge number first.checkpoints.length with hlt | hge
  · refine hkept saved ?_
    rw [← hsaved]
    exact (List.prefix_iff_getElem?.mp h.older number hlt ▸ List.getElem?_eq_getElem hlt)
  · exact h.checkpoints number saved hge hsaved

variable {step}

/-- What a call preserves that does not undo the first moment. -/
theorem After.call (hstep : ∀ s operation, Follows version content s (step s operation))
    {first store : Store σ} (h : After version content first store) {call : Call ω}
    (hcall : ∀ number saved, call = .restoreCheckpoint number →
      first.checkpoints[number]? = some saved → Follows version content first.current saved) :
    After version content first (store.call step call) := by
  cases call with
  | operate operation => exact ⟨h.current.trans (hstep _ _), h.checkpoints, h.older⟩
  | createCheckpoint =>
      refine ⟨h.current, fun number saved hnumber hsaved => ?_,
        h.older.trans (List.prefix_append _ _)⟩
      rcases Nat.lt_or_ge number store.checkpoints.length with hlt | hge
      · exact h.checkpoints number saved hnumber (by
          rwa [Store.call, List.getElem?_append_left hlt] at hsaved)
      · -- the new checkpoint is the state
        rw [Store.call, List.getElem?_append_right hge, List.getElem?_singleton] at hsaved
        split at hsaved
        · cases hsaved
          exact h.current
        · cases hsaved
  | restoreCheckpoint number =>
      refine ⟨?_, h.checkpoints, h.older⟩
      cases hsaved : store.checkpoints[number]? with
      | none =>
          simp only [Store.call, hsaved, Option.getD_none]
          exact h.current
      | some saved =>
          simp only [Store.call, hsaved, Option.getD_some]
          exact h.saved hsaved fun older => hcall number older rfl

/-- Two moments of a history with no restore between them that undoes the first. -/
theorem follows_of_not_undone
    (hstep : ∀ s operation, Follows version content s (step s operation)) (first : Store σ)
    (calls : List (Call ω)) (h : ¬ Undone version content first calls) :
    Follows version content first.current (first.run step calls).current := by
  have hafter : ∀ (calls : List (Call ω)) (store : Store σ), After version content first store →
      ¬ Undone version content first calls →
      After version content first (store.run step calls) := by
    intro calls
    induction calls with
    | nil => exact fun store hstore _ => hstore
    | cons call calls ih =>
        intro store hstore hundone
        refine ih (store.call step call) (hstore.call hstep fun number saved hcall hsaved => ?_) ?_
        · by_contra hlost
          exact hundone ⟨number, saved, by rw [hcall]; exact List.mem_cons_self, hsaved, hlost⟩
        · rintro ⟨number, saved, hmem, hsaved, hlost⟩
          exact hundone ⟨number, saved, List.mem_cons_of_mem _ hmem, hsaved, hlost⟩
  exact (hafter calls first (.refl first) h).current

theorem Store.run_append (store : Store σ) (before after : List (Call ω)) :
    store.run step (before ++ after) = (store.run step before).run step after :=
  List.foldl_append

end Checkpoints
