import Mathlib

/-!
# Fields joined by a separator

A text built from fields with a separator between them determines a field that does not
contain the separator: the first field from the left, or the last one from the right.

* `append_cons_inj_left`, `append_cons_inj_right` — the two halves around the first or
  the last separator.
* `notMem_toString` — decimal numerals contain only digits.
-/

namespace Text

variable {α : Type*} {separator : α} {xs ys as bs : List α}

/-- Everything before and after the first separator is determined. -/
theorem append_cons_inj_left (hxs : separator ∉ xs) (hys : separator ∉ ys)
    (h : xs ++ separator :: as = ys ++ separator :: bs) : xs = ys ∧ as = bs := by
  induction xs generalizing ys with
  | nil =>
      cases ys with
      | nil => exact ⟨rfl, (List.cons.inj h).2⟩
      | cons y ys =>
          obtain ⟨rfl, -⟩ := List.cons.inj h
          exact absurd List.mem_cons_self hys
  | cons x xs ih =>
      cases ys with
      | nil =>
          obtain ⟨rfl, -⟩ := List.cons.inj h
          exact absurd List.mem_cons_self hxs
      | cons y ys =>
          obtain ⟨rfl, htail⟩ := List.cons.inj h
          obtain ⟨rfl, hrest⟩ :=
            ih (fun hmem => hxs (List.mem_cons_of_mem _ hmem))
              (fun hmem => hys (List.mem_cons_of_mem _ hmem)) htail
          exact ⟨rfl, hrest⟩

/-- Everything before and after the last separator is determined. -/
theorem append_cons_inj_right (has : separator ∉ as) (hbs : separator ∉ bs)
    (h : xs ++ separator :: as = ys ++ separator :: bs) : xs = ys ∧ as = bs := by
  have hreverse := congrArg List.reverse h
  simp only [List.reverse_append, List.reverse_cons, List.append_assoc, List.singleton_append]
    at hreverse
  obtain ⟨hafter, hbefore⟩ := append_cons_inj_left
    (fun hmem => has (List.mem_reverse.mp hmem)) (fun hmem => hbs (List.mem_reverse.mp hmem))
    hreverse
  exact ⟨List.reverse_injective hbefore, List.reverse_injective hafter⟩

/-- A character that is no digit stands in no numeral. -/
theorem notMem_toString {c : Char} (hc : c.isDigit = false) (n : ℕ) : c ∉ (toString n).toList := by
  intro hmem
  rw [Nat.toString_eq_repr, Nat.toList_repr] at hmem
  have hdigit := Nat.isDigit_of_mem_toDigits (by omega) (by omega) hmem
  rw [hc] at hdigit
  cases hdigit

theorem toString_injective {m n : ℕ} (h : (toString m).toList = (toString n).toList) : m = n := by
  have hstring := String.toList_injective h
  exact Nat.repr_injective hstring

end Text
