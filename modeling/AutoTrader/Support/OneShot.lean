import Mathlib

/-!
# Lists that are filtered and appended to

A list of waiting items on which every operation drops some items and appends at most one.
Its content after a history of operations is determined by where each item came from: an
item waits exactly when no operation since its own has dropped it.

* `log` — the list after a history, from the empty one.
* `Waits` — the item of the `i`-th operation waits after `n` operations.
* `log_take` — the list after `n` operations holds the items that wait, in the order of the
  operations they came from.
* `not_waits_of_dropped` — a dropped item never waits again.
-/

namespace OneShot

universe u v

variable {Op : Type u} {Item : Type v} (keep : Op → Item → Bool) (add : Op → Option Item)

/-- What an operation does to the list. -/
def step (items : List Item) (op : Op) : List Item := items.filter (keep op) ++ (add op).toList

/-- The list after a history. -/
def log (ops : List Op) : List Item := ops.foldl (step keep add) []

/-- The item that the `i`-th operation appends. -/
def item (ops : List Op) (i : ℕ) : Option Item := ops[i]?.bind add

/-- The item of the `i`-th operation was not dropped before the `n`-th. -/
def waits (ops : List Op) (n i : ℕ) : Bool :=
  (item add ops i).any fun entry => ((ops.take n).drop (i + 1)).all (keep · entry)

/-- The operations whose items wait after `n` operations, in their order. -/
def waiting (ops : List Op) (n : ℕ) : List ℕ := (List.range n).filter (waits keep add ops n)

variable {keep add} {ops : List Op} {n i : ℕ} {op : Op}

theorem log_take_succ (h : ops[n]? = some op) :
    log keep add (ops.take (n + 1)) = step keep add (log keep add (ops.take n)) op := by
  unfold log
  rw [List.take_add_one, h, Option.toList_some, List.foldl_append]
  rfl

theorem mem_waiting : i ∈ waiting keep add ops n ↔ i < n ∧ waits keep add ops n i = true := by
  rw [waiting, List.mem_filter, List.mem_range]

theorem waits_iff : waits keep add ops n i = true ↔
    ∃ entry, item add ops i = some entry ∧
      ∀ op ∈ (ops.take n).drop (i + 1), keep op entry = true := by
  unfold waits
  rw [Option.any_eq_true]
  simp only [List.all_eq_true]

/-- An older item goes on waiting when the operation keeps it. -/
theorem waits_succ (hi : i < n) (h : ops[n]? = some op) :
    waits keep add ops (n + 1) i =
      (waits keep add ops n i && (item add ops i).any (keep op)) := by
  have hlength : n < ops.length := (List.getElem?_eq_some_iff.mp h).1
  have hdrop : (ops.take (n + 1)).drop (i + 1) = (ops.take n).drop (i + 1) ++ [op] := by
    rw [List.take_add_one, h, Option.toList_some, List.drop_append_of_le_length]
    rw [List.length_take]
    omega
  unfold waits
  rw [hdrop]
  cases item add ops i with
  | none => rfl
  | some entry => simp only [Option.any_some, List.all_append, List.all_cons, List.all_nil,
      Bool.and_true]

/-- The item of the operation itself waits. -/
theorem waits_self (h : ops[n]? = some op) :
    waits keep add ops (n + 1) n = (add op).isSome := by
  have hdrop : (ops.take (n + 1)).drop (n + 1) = [] :=
    List.drop_eq_nil_of_le (by rw [List.length_take]; omega)
  unfold waits item
  rw [hdrop, h, Option.bind_some]
  cases add op <;> rfl

/-- Items that wait, one operation later: the kept ones and the new one. -/
theorem waiting_succ (h : ops[n]? = some op) :
    waiting keep add ops (n + 1) =
      (waiting keep add ops n).filter (fun i => (item add ops i).any (keep op)) ++
        if (add op).isSome then [n] else [] := by
  unfold waiting
  rw [List.range_succ, List.filter_append, List.filter_filter]
  congr 1
  · refine List.filter_congr fun i hi => ?_
    rw [waits_succ (List.mem_range.mp hi) h, Bool.and_comm]
  · rw [List.filter_singleton, waits_self h, cond_eq_ite]

/-- The kept part of a list of items, in terms of where they came from. -/
theorem filter_filterMap_item (indices : List ℕ) (p : Item → Bool) :
    (indices.filterMap (item add ops)).filter p =
      (indices.filter fun i => (item add ops i).any p).filterMap (item add ops) := by
  rw [List.filter_filterMap, List.filterMap_filter]
  refine List.filterMap_congr fun i _ => ?_
  cases item add ops i with
  | none => simp
  | some entry => simp [Option.filter]

/-- The list after `n` operations. -/
theorem log_take (hn : n ≤ ops.length) :
    log keep add (ops.take n) = (waiting keep add ops n).filterMap (item add ops) := by
  induction n with
  | zero => rfl
  | succ n ih =>
      obtain ⟨op, hop⟩ : ∃ op, ops[n]? = some op := ⟨ops[n], List.getElem?_eq_getElem hn⟩
      rw [log_take_succ hop, ih (by omega), step, filter_filterMap_item, waiting_succ hop,
        List.filterMap_append]
      congr 1
      have hitem : item add ops n = add op := by rw [item, hop, Option.bind_some]
      cases hadd : add op with
      | none => rfl
      | some entry => simp [hitem, hadd]

/-- What waits later waited before. -/
theorem waits_of_le {m : ℕ} (hnm : n ≤ m) (h : waits keep add ops m i = true) :
    waits keep add ops n i = true := by
  obtain ⟨entry, hitem, hkeep⟩ := waits_iff.mp h
  refine waits_iff.mpr ⟨entry, hitem, fun op hop => hkeep op ?_⟩
  exact ((List.take_prefix_take_left hnm).drop (i + 1)).subset hop

/-- A dropped item never waits again. -/
theorem not_waits_of_dropped {m : ℕ} {entry : Item} (hi : i < n) (h : ops[n]? = some op)
    (hitem : item add ops i = some entry) (hdrop : keep op entry = false) (hnm : n < m) :
    waits keep add ops m i = false := by
  refine Bool.eq_false_iff.mpr fun hwaits => ?_
  have hnext := waits_of_le (Nat.succ_le_of_lt hnm) hwaits
  rw [waits_succ hi h, hitem, Option.any_some, hdrop, Bool.and_false] at hnext
  cases hnext

end OneShot
