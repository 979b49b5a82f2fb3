import Mathlib.Data.List.Basic
import Mathlib.Tactic

/-! # Two columns of one log

Every entry of a log fills a cell of one column, and only some of them fill one of the other.
A row belongs together if one entry has filled both of its cells. All rows do exactly if an
entry that fills both finds the columns at one height.
-/

namespace Sqrkal.Foundation

variable {α β : Type} {p : α → Bool} {l : List α} {a : α} {i k n : ℕ}

/-- The entries that fill the second column, with their places in the log. -/
def picked (p : α → Bool) (l : List α) : List (α × ℕ) := l.zipIdx.filter fun q => p q.1

@[simp] theorem length_picked (p : α → Bool) (l : List α) : (picked p l).length = l.countP p := by
  have hmap : (l.zipIdx.map Prod.fst).countP p = l.zipIdx.countP fun q => p q.1 := List.countP_map
  rw [picked, ← List.countP_eq_length_filter, ← hmap, List.zipIdx_map_fst]

theorem picked_concat (p : α → Bool) (l : List α) (a : α) :
    picked p (l ++ [a]) = picked p l ++ if p a then [(a, l.length)] else [] := by
  simp only [picked, List.zipIdx_append, List.filter_append, Nat.zero_add]
  by_cases h : p a = true
  · simp [h]
  · simp [h]

/-- An entry stands in the second column where the entries before it have left off. -/
theorem getElem?_filter_zipIdx (n : ℕ) : ((l.zipIdx n).filter fun q => p q.1)[i]? = some (a, n + k) ↔
    l[k]? = some a ∧ p a = true ∧ (l.take k).countP p = i := by
  induction l generalizing n i k with
  | nil => simp
  | cons b l ih =>
    have hlater (j : ℕ) : ((l.zipIdx (n + 1)).filter fun q => p q.1)[j]? ≠ some (a, n) := by
      intro h
      have hmem := List.mem_of_mem_filter (List.mem_of_getElem? h)
      have hle := List.le_snd_of_mem_zipIdx hmem
      dsimp only at hle
      omega
    have hnext (j k : ℕ) := ih (n + 1) (i := j) (k := k)
    simp only [Nat.add_right_comm n 1] at hnext
    rw [List.zipIdx_cons, List.filter_cons]
    by_cases hb : p b = true
    · rw [if_pos hb]
      cases i with
      | zero =>
        cases k with
        | zero =>
          constructor
          · rintro ⟨⟩
            exact ⟨rfl, hb, rfl⟩
          · rintro ⟨⟨⟩, -, -⟩
            rfl
        | succ k => simp [hb]
      | succ i =>
        cases k with
        | zero => simp [hlater]
        | succ k => simpa [hb, Nat.add_assoc] using hnext i k
    · rw [if_neg hb]
      cases k with
      | zero =>
        refine iff_of_false (hlater i) fun h => hb ?_
        cases h.1
        exact h.2.1
      | succ k => simpa [hb, Nat.add_assoc] using hnext i k

theorem getElem?_picked :
    (picked p l)[i]? = some (a, k) ↔ l[k]? = some a ∧ p a = true ∧ (l.take k).countP p = i := by
  simpa [picked] using getElem?_filter_zipIdx (l := l) (p := p) (i := i) (a := a) (k := k) 0

/-- One entry has filled both cells of a row. -/
def IsRow (p : α → Bool) (l : List α) (i : ℕ) (a : α) : Prop :=
  l[i]? = some a ∧ (picked p l)[i]? = some (a, i)

/-- Every row belongs together exactly if each entry that fills both columns comes behind
entries that have filled both. -/
theorem rows_match_iff : (∀ i < (picked p l).length, ∃ a, IsRow p l i a) ↔
    ∀ k a, l[k]? = some a → p a = true → (l.take k).countP p = k := by
  constructor
  · intro h k a hk ha
    have hcell : (picked p l)[(l.take k).countP p]? = some (a, k) := getElem?_picked.mpr ⟨hk, ha, rfl⟩
    obtain ⟨hlt, -⟩ := List.getElem?_eq_some_iff.mp hcell
    obtain ⟨b, -, hb⟩ := h _ hlt
    rw [hcell] at hb
    exact (congrArg Prod.snd (Option.some.inj hb)).symm
  · intro h i hi
    obtain ⟨⟨a, k⟩, hcell⟩ : ∃ q, (picked p l)[i]? = some q := ⟨_, List.getElem?_eq_getElem hi⟩
    obtain ⟨hk, ha, hcount⟩ := getElem?_picked.mp hcell
    obtain rfl : k = i := (h k a hk ha).symm.trans hcount
    exact ⟨a, hk, hcell⟩

end Sqrkal.Foundation
