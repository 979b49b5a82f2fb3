import Mathlib.Algebra.BigOperators.Group.List.Basic
import Mathlib.Data.Nat.Notation
import Mathlib.Tactic.NormNum

/-! # One's complement sums

A sum of 16-bit words is brought back to 16 bits by adding its carries to it, twice. The
result is the sum modulo 65535, with 65535 in the place of zero unless all words are zero,
which is the sum in one's complement arithmetic, where each carry is added back at once.
-/

namespace Sqrkal.Foundation

/-- A sum with its carries added back. -/
def onesFold (sum : ℕ) : ℕ :=
  let sum := sum / 2 ^ 16 + sum % 2 ^ 16
  (sum + sum / 2 ^ 16) % 2 ^ 16

section Fold
variable {s : ℕ}

theorem onesFold_le (s : ℕ) : onesFold s ≤ 65535 := by
  unfold onesFold
  dsimp only
  omega

/-- What is taken away is a multiple of 65535, and nothing is left only of nothing. -/
theorem onesFold_spec (h : s < 2 ^ 32) :
    ∃ k, s = 65535 * k + onesFold s ∧ (onesFold s = 0 → k = 0) := by
  unfold onesFold
  dsimp only
  by_cases hcarry : s / 2 ^ 16 + s % 2 ^ 16 < 2 ^ 16
  · have hsmall : (s / 2 ^ 16 + s % 2 ^ 16) / 2 ^ 16 = 0 := Nat.div_eq_of_lt hcarry
    refine ⟨s / 2 ^ 16, ?_, ?_⟩
    · omega
    · omega
  · have hone : (s / 2 ^ 16 + s % 2 ^ 16) / 2 ^ 16 = 1 := by omega
    refine ⟨s / 2 ^ 16 + 1, ?_, ?_⟩
    · omega
    · omega

/-- A sum verifies exactly if it is a positive multiple of 65535. -/
theorem onesFold_eq_top_iff (h : s < 2 ^ 32) : onesFold s = 65535 ↔ 0 < s ∧ s % 65535 = 0 := by
  have hle := onesFold_le s
  rcases onesFold_spec h with ⟨k, hs, hk⟩
  omega

/-- Words and the complement of their sum verify, together with further words exactly if
these add up to a multiple of 65535. -/
theorem complement_verifies_iff {extra : ℕ} (h : s + 65535 + extra < 2 ^ 32) :
    onesFold (s + (65535 - onesFold s) + extra) = 65535 ↔ extra % 65535 = 0 := by
  have hle := onesFold_le s
  rcases @onesFold_spec s (by omega) with ⟨k, hs, hk⟩
  rw [onesFold_eq_top_iff (by omega)]
  omega

end Fold

/-! ## One's complement arithmetic -/

/-- Addition of two words with the carry added back. -/
def onesAdd (a b : ℕ) : ℕ := (a + b) / 2 ^ 16 + (a + b) % 2 ^ 16

def onesSum : List ℕ → ℕ
  | [] => 0
  | w :: ws => onesAdd w (onesSum ws)

/-- A word that represents a sum modulo 65535, zero being represented by itself alone. -/
structure IsOnesSum (s r : ℕ) : Prop where
  le : r ≤ 65535
  mod : s % 65535 = r % 65535
  zero : r = 0 ↔ s = 0

theorem IsOnesSum.unique {s r r' : ℕ} (h : IsOnesSum s r) (h' : IsOnesSum s r') : r = r' := by
  have hle := h.le
  have hle' := h'.le
  have hmod := h.mod.symm.trans h'.mod
  have hzero := h.zero.trans h'.zero.symm
  omega

theorem IsOnesSum.add {w s r : ℕ} (hw : w ≤ 65535) (h : IsOnesSum s r) :
    IsOnesSum (w + s) (onesAdd w r) := by
  have hle := h.le
  have hmod := h.mod
  have hzero := h.zero
  unfold onesAdd
  constructor
  · omega
  · omega
  · omega

theorem isOnesSum_onesSum {ws : List ℕ} (h : ∀ w ∈ ws, w ≤ 65535) : IsOnesSum ws.sum (onesSum ws) := by
  induction ws with
  | nil => exact ⟨by decide, rfl, by simp [onesSum]⟩
  | cons w ws ih =>
    rw [List.sum_cons, onesSum]
    exact (ih (List.forall_mem_of_forall_mem_cons h)).add (h w List.mem_cons_self)

theorem isOnesSum_onesFold {s : ℕ} (h : s < 2 ^ 32) : IsOnesSum s (onesFold s) := by
  rcases onesFold_spec h with ⟨k, hs, hk⟩
  refine ⟨onesFold_le s, ?_, ?_⟩
  · omega
  · omega

/-- Two folds at the end are as good as a fold at each step. -/
theorem onesFold_sum {ws : List ℕ} (h : ∀ w ∈ ws, w ≤ 65535) (hsum : ws.sum < 2 ^ 32) :
    onesFold ws.sum = onesSum ws :=
  (isOnesSum_onesFold hsum).unique (isOnesSum_onesSum h)

end Sqrkal.Foundation
