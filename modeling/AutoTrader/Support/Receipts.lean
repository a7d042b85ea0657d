import AutoTrader.Support.Dict

/-!
# Receipts of idempotent commands

A command names itself by a key.  What it returned is kept under the key with the
fingerprint of its payload, so that a repetition finds the first result and another payload
is told apart.  The store is bounded: the oldest receipts go first.

* `ReceiptStore.record` — a receipt under a key, and the eviction after it.
* `Recording` — a sequence of calls, each of which leaves the store alone or records its own
  key when it has no receipt.
* `ReceiptStore.Sound.record_forgets` — what any record and its evictions leave.
* `Recording.find_eq` — along fewer keys than the limit no receipt is lost.
-/

namespace Receipts

variable {κ φ ρ : Type} [DecidableEq κ]

/-- The payload a command came with, and what it returned. -/
structure Receipt (φ ρ : Type) where
  fingerprint : φ
  result : ρ
  deriving DecidableEq

/-- The receipts by their keys, and the keys in the order of eviction. -/
structure ReceiptStore (κ φ ρ : Type) where
  records : List (κ × Receipt φ ρ) := []
  order : List κ := []

namespace ReceiptStore

/-- The receipt of a key. -/
def find (store : ReceiptStore κ φ ρ) (key : κ) : Option (Receipt φ ρ) :=
  store.records.lookup key

/-- While there are more keys than the limit, the oldest one goes. -/
def evict (limit : ℕ) (records : List (κ × Receipt φ ρ)) : List κ → ReceiptStore κ φ ρ
  | [] => ⟨records, []⟩
  | oldest :: order =>
      if limit < (oldest :: order).length then evict limit (Dict.erase oldest records) order
      else ⟨records, oldest :: order⟩

/-- A receipt under a key. -/
def record (limit : ℕ) (key : κ) (receipt : Receipt φ ρ) (store : ReceiptStore κ φ ρ) :
    ReceiptStore κ φ ρ :=
  evict limit (Dict.insert key receipt store.records) (store.order ++ [key])

/-- Every key stands once in the order of eviction, and nothing else does. -/
structure Sound (store : ReceiptStore κ φ ρ) : Prop where
  keys : Dict.keys store.records = store.order
  nodup : store.order.Nodup

variable {store : ReceiptStore κ φ ρ} {limit : ℕ} {key : κ} {receipt : Receipt φ ρ}

omit [DecidableEq κ] in
theorem sound_empty : (({} : ReceiptStore κ φ ρ)).Sound := ⟨rfl, List.nodup_nil⟩

/-- Within the limit nothing is evicted. -/
theorem evict_of_le {records : List (κ × Receipt φ ρ)} {order : List κ}
    (h : order.length ≤ limit) : evict limit records order = ⟨records, order⟩ := by
  cases order with
  | nil => rfl
  | cons oldest order => rw [evict, if_neg (by omega)]

theorem record_of_lt (h : store.order.length < limit) :
    store.record limit key receipt =
      ⟨Dict.insert key receipt store.records, store.order ++ [key]⟩ :=
  evict_of_le (by rw [List.length_append, List.length_singleton]; omega)

/-- A key without a receipt is not in the order of eviction. -/
theorem Sound.notMem (h : store.Sound) (hfind : store.find key = none) : key ∉ store.order := by
  rw [← h.keys]
  exact Dict.lookup_eq_none_iff.mp hfind

theorem Sound.nodup_append (h : store.Sound) (hfind : store.find key = none) :
    (store.order ++ [key]).Nodup := by
  rw [List.nodup_append]
  refine ⟨h.nodup, List.nodup_singleton key, ?_⟩
  rintro other hother last hlast rfl
  exact h.notMem hfind (List.mem_singleton.mp hlast ▸ hother)

theorem Sound.record (h : store.Sound) (hfind : store.find key = none)
    (hlimit : store.order.length < limit) : (store.record limit key receipt).Sound := by
  have hnew := h.notMem hfind
  rw [record_of_lt hlimit]
  refine ⟨?_, ?_⟩
  · rw [Dict.keys_insert, if_neg (by rw [h.keys]; exact hnew), h.keys]
  · exact h.nodup_append hfind

theorem find_record_self (hlimit : store.order.length < limit) :
    (store.record limit key receipt).find key = some receipt := by
  rw [record_of_lt hlimit]
  exact Dict.lookup_insert_self key receipt store.records

theorem find_record_of_ne {other : κ} (hne : other ≠ key) (hlimit : store.order.length < limit) :
    (store.record limit key receipt).find other = store.find other := by
  rw [record_of_lt hlimit]
  exact Dict.lookup_insert_of_ne hne receipt store.records

/-- What is found after `pop` was there before. -/
theorem lookup_of_lookup_erase {α : Type} {key other : κ} {value : α} {entries : List (κ × α)}
    (h : (Dict.erase key entries).lookup other = some value) :
    entries.lookup other = some value := by
  have hne : other ≠ key := by
    rintro rfl
    have hkeys : other ∉ Dict.keys (Dict.erase other entries) := by simp [Dict.keys_erase]
    rw [Dict.lookup_eq_none_iff.mpr hkeys] at h
    cases h
  induction entries with
  | nil => exact h
  | cons entry entries ih =>
      obtain ⟨first, old⟩ := entry
      by_cases hfirst : first = key
      · rw [Dict.erase, List.filter_cons_of_neg (by simpa using hfirst)] at h
        rw [List.lookup_cons, beq_false_of_ne (by rw [hfirst]; exact hne)]
        exact ih h
      · rw [Dict.erase, List.filter_cons_of_pos (by simpa using hfirst), List.lookup_cons] at h
        rw [List.lookup_cons]
        split at h
        · exact h
        · exact ih h

/-- An eviction forgets keys and their receipts, and changes no receipt. -/
theorem evict_forgets (limit : ℕ) {records : List (κ × Receipt φ ρ)} {order : List κ}
    (hkeys : Dict.keys records = order) (hnodup : order.Nodup) :
    (evict limit records order).Sound ∧ (evict limit records order).order ⊆ order ∧
      ∀ other found, (evict limit records order).find other = some found →
        records.lookup other = some found := by
  induction order generalizing records with
  | nil => exact ⟨⟨hkeys, hnodup⟩, fun _ h => h, fun _ _ h => h⟩
  | cons oldest order ih =>
      rw [evict]
      split
      · obtain ⟨hnew, hrest⟩ := List.nodup_cons.mp hnodup
        have herased : Dict.keys (Dict.erase oldest records) = order := by
          rw [Dict.keys_erase, hkeys, List.filter_cons_of_neg (by simp), List.filter_eq_self]
          intro other hother
          exact decide_eq_true (fun heq => hnew (heq ▸ hother))
        obtain ⟨hsound, hsubset, hfind⟩ := ih herased hrest
        exact ⟨hsound, fun other hother => List.mem_cons_of_mem _ (hsubset hother),
          fun other found hfound => lookup_of_lookup_erase (hfind other found hfound)⟩
      · exact ⟨⟨hkeys, hnodup⟩, fun _ h => h, fun _ _ h => h⟩

/-- A new receipt, whatever the limit. -/
theorem Sound.record_forgets (h : store.Sound) (hfind : store.find key = none) :
    (store.record limit key receipt).Sound ∧
      (store.record limit key receipt).order ⊆ store.order ++ [key] ∧
      ∀ other found, (store.record limit key receipt).find other = some found →
        store.find other = some found ∨ other = key ∧ found = receipt := by
  have hkeys : Dict.keys (Dict.insert key receipt store.records) = store.order ++ [key] := by
    rw [Dict.keys_insert, if_neg (by rw [h.keys]; exact h.notMem hfind), h.keys]
  have hforgets := evict_forgets limit hkeys (h.nodup_append hfind)
  refine ⟨hforgets.1, hforgets.2.1, fun other found hother => ?_⟩
  have hlookup := hforgets.2.2 other found hother
  by_cases heq : other = key
  · rw [heq, Dict.lookup_insert_self] at hlookup
    exact .inr ⟨heq, (Option.some.inj hlookup).symm⟩
  · rw [Dict.lookup_insert_of_ne heq] at hlookup
    exact .inl hlookup

end ReceiptStore

/-! ## Sequences of calls -/

/-- A call with the key leaves the store alone, or it records the key for the first time. -/
inductive Records (limit : ℕ) (key : κ) : ReceiptStore κ φ ρ → ReceiptStore κ φ ρ → Prop
  | same (store : ReceiptStore κ φ ρ) : Records limit key store store
  | recorded {store : ReceiptStore κ φ ρ} (receipt : Receipt φ ρ) (h : store.find key = none) :
      Records limit key store (store.record limit key receipt)

/-- What calls with these keys do to the store. -/
inductive Recording (limit : ℕ) : List κ → ReceiptStore κ φ ρ → ReceiptStore κ φ ρ → Prop
  | nil (store : ReceiptStore κ φ ρ) : Recording limit [] store store
  | cons {key : κ} {keys : List κ} {store next last : ReceiptStore κ φ ρ}
      (hstep : Records limit key store next) (hrest : Recording limit keys next last) :
      Recording limit (key :: keys) store last

variable {limit : ℕ} {keys : List κ} {store next last : ReceiptStore κ φ ρ} {key : κ}

/-- A new key fits when the known keys and it are no more than the limit. -/
theorem ReceiptStore.Sound.length_lt (h : store.Sound) (hfind : store.find key = none)
    (hcard : (store.order ++ key :: keys).toFinset.card ≤ limit) : store.order.length < limit := by
  have hsub : (store.order ++ [key]).toFinset ⊆ (store.order ++ key :: keys).toFinset := by
    intro a ha
    simp only [List.toFinset_append, Finset.mem_union, List.mem_toFinset, List.mem_cons] at ha ⊢
    tauto
  have hnodup := h.nodup_append hfind
  have hle := (Finset.card_le_card hsub).trans hcard
  rw [List.toFinset_card_of_nodup hnodup, List.length_append, List.length_singleton] at hle
  omega

/-- A step keeps the store sound, keeps its receipts, and adds at most its key. -/
theorem Records.step (hstep : Records limit key store next) (h : store.Sound)
    (hcard : (store.order ++ key :: keys).toFinset.card ≤ limit) :
    next.Sound ∧ (next.order ++ keys).toFinset ⊆ (store.order ++ key :: keys).toFinset ∧
      ∀ other receipt, store.find other = some receipt → next.find other = some receipt := by
  cases hstep with
  | same =>
      refine ⟨h, ?_, fun _ _ hfind => hfind⟩
      intro a ha
      simp only [List.toFinset_append, Finset.mem_union, List.mem_toFinset, List.mem_cons] at ha ⊢
      tauto
  | recorded receipt hfind =>
      have hlt := h.length_lt hfind hcard
      refine ⟨h.record hfind hlt, ?_, ?_⟩
      · rw [ReceiptStore.record_of_lt hlt]
        intro a ha
        simpa [or_assoc] using ha
      · intro other found hother
        rw [ReceiptStore.find_record_of_ne _ hlt]
        · exact hother
        · rintro rfl
          rw [hfind] at hother
          cases hother

/-- Along no more keys than the limit the store stays sound and loses no receipt. -/
theorem Recording.find_eq (hrun : Recording limit keys store last) (h : store.Sound)
    (hcard : (store.order ++ keys).toFinset.card ≤ limit) :
    last.Sound ∧ ∀ key receipt, store.find key = some receipt → last.find key = some receipt := by
  induction hrun with
  | nil store => exact ⟨h, fun _ _ hfind => hfind⟩
  | cons hstep hrest ih =>
      obtain ⟨hsound, hsub, hkept⟩ := hstep.step h hcard
      obtain ⟨hlast, hfind⟩ := ih hsound ((Finset.card_le_card hsub).trans hcard)
      exact ⟨hlast, fun key receipt hkey => hfind key receipt (hkept key receipt hkey)⟩

/-- A run in two parts. -/
theorem Recording.order_subset (hrun : Recording limit keys store last) (h : store.Sound)
    (rest : List κ) (hcard : (store.order ++ (keys ++ rest)).toFinset.card ≤ limit) :
    (last.order ++ rest).toFinset ⊆ (store.order ++ (keys ++ rest)).toFinset := by
  induction hrun with
  | nil store => exact fun _ ha => ha
  | cons hstep hrest ih =>
      obtain ⟨hsound, hsub, -⟩ := hstep.step h hcard
      exact (ih hsound ((Finset.card_le_card hsub).trans hcard)).trans hsub

end Receipts
