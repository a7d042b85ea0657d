import Mathlib

/-!
# Values kept once under their keys

A list holds values under keys.  A value of a new key joins it, an equal value of a known key
changes nothing, and a different one raises.

* `keepOnce` — one value joins the list; a loop over values is `List.foldlM` of it.
* `Keeps` — what joining values may do to the list.
* `keeps_keepOnce`, `keeps_foldlM` — a step and a loop that return do no more than that.
* `exists_keepOnce`, `exists_foldlM` — values that agree with each other join it.
-/

namespace KeptOnce

variable {α κ ε : Type} [DecidableEq κ] {key : α → κ} {conflict : α → ε} {known next : List α}
  {value : α}

theorem find?_eq_none_iff :
    known.find? (fun other => decide (key other = key value)) = none ↔
      key value ∉ known.map key := by
  simp

variable [DecidableEq α]

/-- One value joins the known ones. -/
def keepOnce (key : α → κ) (conflict : α → ε) (known : List α) (value : α) : Except ε (List α) :=
  match known.find? fun other => decide (key other = key value) with
  | none => .ok (known ++ [value])
  | some existing => if existing = value then .ok known else .error (conflict value)

/-- The known values stay in front, distinct keys stay distinct, and only the given values are
added. -/
structure Keeps (key : α → κ) (known values next : List α) : Prop where
  isPrefix : known <+: next
  keys_nodup : (known.map key).Nodup → (next.map key).Nodup
  mem_iff : ∀ value, value ∈ next ↔ value ∈ known ∨ value ∈ values

/-! ## One value -/

/-- A value of a new key is appended. -/
theorem keepOnce_of_new (h : key value ∉ known.map key) :
    keepOnce key conflict known value = .ok (known ++ [value]) := by
  rw [keepOnce, find?_eq_none_iff.mpr h]

/-- A value that agrees with the known ones joins them. -/
theorem exists_keepOnce (h : ∀ other ∈ known, key other = key value → other = value) :
    ∃ next, keepOnce key conflict known value = .ok next := by
  unfold keepOnce
  split
  · exact ⟨_, rfl⟩
  · rename_i existing hfind
    have hkey : key existing = key value := by simpa using List.find?_some hfind
    exact ⟨known, if_pos (h existing (List.mem_of_find?_eq_some hfind) hkey)⟩

/-- A known value changes nothing. -/
theorem keepOnce_of_mem (hnodup : (known.map key).Nodup) (h : value ∈ known) :
    keepOnce key conflict known value = .ok known := by
  cases hfind : known.find? fun other => decide (key other = key value) with
  | none => exact absurd (List.mem_map_of_mem h) (find?_eq_none_iff.mp hfind)
  | some existing =>
      have hkey : key existing = key value := by simpa using List.find?_some hfind
      have hsame := List.inj_on_of_nodup_map hnodup (List.mem_of_find?_eq_some hfind) h hkey
      rw [keepOnce, hfind]
      exact if_pos hsame

theorem keeps_keepOnce (h : keepOnce key conflict known value = .ok next) :
    Keeps key known [value] next := by
  unfold keepOnce at h
  split at h
  · rename_i hnew
    obtain rfl := Except.ok.inj h
    have hkey := find?_eq_none_iff.mp hnew
    refine ⟨List.prefix_append _ _, fun hnodup => ?_, fun other => List.mem_append⟩
    rw [List.map_append, List.nodup_append]
    refine ⟨hnodup, List.nodup_singleton _, ?_⟩
    rintro old hold last hlast rfl
    rw [List.map_singleton, List.mem_singleton] at hlast
    exact hkey (hlast ▸ hold)
  · rename_i existing hfind
    split at h
    · rename_i hsame
      obtain rfl := Except.ok.inj h
      have hmem : value ∈ known := hsame ▸ List.mem_of_find?_eq_some hfind
      refine ⟨List.prefix_refl _, id, fun other => ⟨.inl, ?_⟩⟩
      rintro (hother | hother)
      · exact hother
      · exact List.mem_singleton.mp hother ▸ hmem
    · cases h

/-! ## A loop over values -/

theorem keeps_foldlM {values : List α}
    (h : values.foldlM (keepOnce key conflict) known = .ok next) : Keeps key known values next := by
  induction values generalizing known with
  | nil =>
      cases h
      exact ⟨List.prefix_refl _, id, by simp⟩
  | cons value values ih =>
      rw [List.foldlM_cons] at h
      cases hstep : keepOnce key conflict known value with
      | error error =>
          rw [hstep] at h
          cases h
      | ok middle =>
          rw [hstep] at h
          have hfirst := keeps_keepOnce hstep
          have hrest := ih h
          refine ⟨hfirst.isPrefix.trans hrest.isPrefix,
            fun hnodup => hrest.keys_nodup (hfirst.keys_nodup hnodup), fun other => ?_⟩
          rw [hrest.mem_iff, hfirst.mem_iff, List.mem_singleton, List.mem_cons, or_assoc]

/-- Values of which no two of one key differ join the list. -/
theorem exists_foldlM {among : α → Prop}
    (hamong : ∀ value other, among value → among other → key value = key other → value = other)
    {values : List α} (hvalues : ∀ value ∈ values, among value)
    (hknown : ∀ value ∈ known, among value) :
    ∃ next, values.foldlM (keepOnce key conflict) known = .ok next := by
  induction values generalizing known with
  | nil => exact ⟨known, rfl⟩
  | cons value values ih =>
      obtain ⟨hvalue, hrest⟩ := List.forall_mem_cons.mp hvalues
      obtain ⟨middle, hmiddle⟩ : ∃ middle, keepOnce key conflict known value = .ok middle :=
        exists_keepOnce fun other hother hkey =>
          hamong other value (hknown other hother) hvalue hkey
      have hall : ∀ other ∈ middle, among other := by
        intro other hother
        rcases ((keeps_keepOnce hmiddle).mem_iff other).mp hother with hother | hother
        · exact hknown other hother
        · exact List.mem_singleton.mp hother ▸ hvalue
      obtain ⟨next, hnext⟩ := ih hrest hall
      refine ⟨next, ?_⟩
      rw [List.foldlM_cons, hmiddle]
      exact hnext

end KeptOnce
