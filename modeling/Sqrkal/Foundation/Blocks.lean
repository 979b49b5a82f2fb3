import Mathlib.Data.List.Basic
import Mathlib.Tactic

/-! # Feeding a function in blocks

A function takes a stream block by block, and what does not fill a block is kept for later.
However the stream is cut into parts, the state and the rest are those of the whole stream.
-/

namespace Sqrkal.Foundation

variable {σ α : Type*} (f : σ → List α → σ) (b : ℕ)

/-- The state after a number of blocks, and what is left of the stream. -/
def feedRounds : ℕ → σ → List α → σ × List α
  | 0, s, xs => (s, xs)
  | n + 1, s, xs => feedRounds n (f s (xs.take b)) (xs.drop b)

/-- All blocks of a stream are taken. -/
def feed (s : σ) (xs : List α) : σ × List α := feedRounds f b (xs.length / b) s xs

/-- A stream is shorter than a block, or there is a stream behind its first block. -/
theorem block_induction {P : List α → Prop} (hb : 0 < b) (short : ∀ xs, xs.length < b → P xs)
    (block : ∀ xs, b ≤ xs.length → P (xs.drop b) → P xs) (xs : List α) : P xs := by
  induction hn : xs.length using Nat.strong_induction_on generalizing xs with
  | _ n ih =>
    by_cases h : xs.length < b
    · exact short xs h
    · refine block xs (not_lt.mp h) (ih (n - b) (by omega) _ ?_)
      simp [hn]

variable {b} {s : σ} {xs ys rest : List α}

@[simp] theorem feed_short (h : xs.length < b) : feed f b s xs = (s, xs) := by
  simp [feed, Nat.div_eq_of_lt h, feedRounds]

section Positive
variable (hb : 0 < b)
include hb

theorem feed_block (h : b ≤ xs.length) :
    feed f b s xs = feed f b (f s (xs.take b)) (xs.drop b) := by
  simp only [feed, List.length_drop]
  rw [Nat.div_eq_sub_div hb h]
  rfl

/-- A stream in two parts: the second goes on with the rest of the first. -/
theorem feed_append : feed f b s (xs ++ ys) =
    feed f b (feed f b s xs).1 ((feed f b s xs).2 ++ ys) := by
  induction xs using block_induction b hb generalizing s with
  | short xs h => simp [h]
  | block xs h ih =>
    have hlong : b ≤ (xs ++ ys).length := by
      simp
      omega
    rw [feed_block f hb hlong, feed_block f hb h, List.take_append_of_le_length h,
      List.drop_append_of_le_length h]
    exact ih

theorem feed_rest_length (s : σ) (xs : List α) :
    (feed f b s xs).2.length = xs.length % b := by
  induction xs using block_induction b hb generalizing s with
  | short xs h => simp [h, Nat.mod_eq_of_lt h]
  | block xs h ih => rw [feed_block f hb h, ih, List.length_drop, ← Nat.mod_eq_sub_mod h]

/-- A rest that is filled up to a block. -/
theorem feed_fill (hrest : rest.length ≤ b) (h : b - rest.length ≤ ys.length) :
    feed f b s (rest ++ ys) =
      feed f b (f s (rest ++ ys.take (b - rest.length))) (ys.drop (b - rest.length)) := by
  have hlong : b ≤ (rest ++ ys).length := by
    simp
    omega
  rw [feed_block f hb hlong, List.take_append, List.drop_append, List.take_of_length_le hrest,
    List.drop_of_length_le hrest, List.nil_append]

end Positive

end Sqrkal.Foundation
