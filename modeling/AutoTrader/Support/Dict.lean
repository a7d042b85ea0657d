import Mathlib

/-!
# Insertion-ordered dictionaries

A dictionary as the list of its entries in the order in which their keys were first set.

* `Dict.insert`, `Dict.setDefault`, `Dict.erase` — `d[key] = value`, `setdefault`, `pop`.
* `Dict.keys` — what these do to the keys, which decides what a lookup finds.
-/

namespace Dict

variable {κ α : Type} [DecidableEq κ]

/-- `d[key] = value`: a known key keeps its place. -/
def insert (key : κ) (value : α) : List (κ × α) → List (κ × α)
  | [] => [(key, value)]
  | entry :: entries =>
      if entry.1 = key then (key, value) :: entries else entry :: insert key value entries

/-- `d.setdefault(key, value)`. -/
def setDefault (key : κ) (value : α) (entries : List (κ × α)) : List (κ × α) :=
  match entries.lookup key with
  | some _ => entries
  | none => insert key value entries

/-- `d.pop(key, None)`. -/
def erase (key : κ) (entries : List (κ × α)) : List (κ × α) :=
  entries.filter fun entry => decide (entry.1 ≠ key)

/-- The keys in their order. -/
def keys (entries : List (κ × α)) : List κ := entries.map Prod.fst

theorem lookup_eq_none_iff {key : κ} {entries : List (κ × α)} :
    entries.lookup key = none ↔ key ∉ keys entries := by
  induction entries with
  | nil => simp [keys]
  | cons entry entries ih =>
      obtain ⟨other, value⟩ := entry
      rw [List.lookup_cons]
      by_cases h : key = other
      · simp [keys, h]
      · rw [beq_false_of_ne h]
        simp only [ih, keys, List.map_cons, List.mem_cons, h, false_or]

/-- With distinct keys, a lookup finds the entries. -/
theorem lookup_eq_some_iff {entries : List (κ × α)} (h : (keys entries).Nodup)
    {entry : κ × α} : entries.lookup entry.1 = some entry.2 ↔ entry ∈ entries := by
  induction entries with
  | nil => simp
  | cons other entries ih =>
      obtain ⟨key, value⟩ := other
      obtain ⟨hnew, hrest⟩ := List.nodup_cons.mp h
      rw [List.lookup_cons, List.mem_cons]
      by_cases hkey : entry.1 = key
      · rw [beq_iff_eq.mpr hkey]
        have hnot : entry ∉ entries := by
          intro hmem
          have hold := List.mem_map_of_mem (f := Prod.fst) hmem
          rw [hkey] at hold
          exact hnew hold
        simp [hnot, Prod.ext_iff, hkey, eq_comm]
      · rw [beq_false_of_ne hkey]
        simp [ih hrest, Prod.ext_iff, hkey]

theorem keys_insert (key : κ) (value : α) (entries : List (κ × α)) :
    keys (insert key value entries) =
      if key ∈ keys entries then keys entries else keys entries ++ [key] := by
  induction entries with
  | nil => simp [insert, keys]
  | cons entry entries ih =>
      obtain ⟨other, old⟩ := entry
      by_cases h : other = key
      · simp [insert, keys, h]
      · have hne : key ≠ other := Ne.symm h
        have hcons : keys (insert key value ((other, old) :: entries)) =
            other :: keys (insert key value entries) := by simp [insert, keys, h]
        rw [hcons, ih]
        by_cases hmem : key ∈ keys entries
        · simp [keys] at hmem
          simp [keys, hmem, hne]
        · simp [keys] at hmem
          simp [keys, hmem, hne]

theorem keys_erase (key : κ) (entries : List (κ × α)) :
    keys (erase key entries) = (keys entries).filter fun other => decide (other ≠ key) := by
  rw [keys, erase, keys, List.filter_map]
  rfl

theorem lookup_insert_self (key : κ) (value : α) (entries : List (κ × α)) :
    (insert key value entries).lookup key = some value := by
  induction entries with
  | nil => simp [insert]
  | cons entry entries ih =>
      obtain ⟨other, old⟩ := entry
      by_cases h : other = key
      · simp [insert, h]
      · rw [insert, if_neg h, List.lookup_cons, beq_false_of_ne (Ne.symm h)]
        exact ih

theorem lookup_insert_of_ne {key other : κ} (hne : other ≠ key) (value : α)
    (entries : List (κ × α)) : (insert key value entries).lookup other = entries.lookup other := by
  induction entries with
  | nil => simp [insert, List.lookup_cons, beq_false_of_ne hne]
  | cons entry entries ih =>
      obtain ⟨first, old⟩ := entry
      by_cases h : first = key
      · subst h
        simp [insert, List.lookup_cons, beq_false_of_ne hne]
      · rw [insert, if_neg h, List.lookup_cons, List.lookup_cons, ih]

end Dict
