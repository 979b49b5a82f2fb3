import Mathlib.Algebra.Order.Group.Int
import Mathlib.Data.List.Chain
import Mathlib.Tactic.Linarith

/-! # Serial numbers

Numbers of `n` bits that are taken from a growing counter. In the order of their draws,
the latest first, they ascend in the sense of serial arithmetic if the counter moves in
small steps, and do not repeat before it has gone round.
-/

namespace Sqrkal.Foundation

variable {n : ℕ}

/-- The second number lies at most half way round behind the first. -/
def Succeeds (new old : BitVec n) : Prop := 0 < (new - old).toNat ∧ (new - old).toNat < 2 ^ (n - 1)

instance (new old : BitVec n) : Decidable (Succeeds new old) := inferInstanceAs (Decidable (_ ∧ _))

/-- Numbers that ascend, the latest first. -/
def Ascends (numbers : List (BitVec n)) : Prop := numbers.IsChain Succeeds

instance (numbers : List (BitVec n)) : Decidable (Ascends numbers) :=
  inferInstanceAs (Decidable (numbers.IsChain Succeeds))

/-- No two numbers at a distance of less than `k` are equal. -/
def DistinctWithin (k : ℕ) (numbers : List (BitVec n)) : Prop :=
  ∀ (i j : ℕ) (hi : i < numbers.length) (hj : j < numbers.length), i < j → j < i + k →
    numbers[i] ≠ numbers[j]

/-- Values of a counter that moves on by at most `k` each time, the latest first. -/
def CountsUp (k : ℤ) (values : List ℤ) : Prop := values.IsChain fun new old => old < new ∧ new ≤ old + k

section Counter
variable {k : ℤ} {values : List ℤ}

theorem toNat_ofInt_sub {a b : ℤ} (hab : a ≤ b) (hb : b - a < 2 ^ n) :
    (BitVec.ofInt n b - BitVec.ofInt n a).toNat = (b - a).toNat := by
  have hsub : BitVec.ofInt n b - BitVec.ofInt n a = BitVec.ofInt n (b - a) := by
    apply BitVec.eq_of_toInt_eq
    rw [BitVec.toInt_sub, BitVec.toInt_ofInt, BitVec.toInt_ofInt, BitVec.toInt_ofInt, Int.bmod_sub_bmod,
      Int.sub_bmod_bmod]
  rw [hsub, BitVec.toNat_ofInt]
  congr 1
  exact Int.emod_eq_of_lt (by omega) (by exact_mod_cast hb)

/-- Between two values the counter has moved on at least by one for each step, and at most
by `k`. -/
theorem CountsUp.distance (h : CountsUp k values) (i d : ℕ) (hj : i + d < values.length) :
    values[i + d] + d ≤ values[i] ∧ values[i] ≤ values[i + d] + k * d := by
  induction d with
  | zero => simp
  | succ d ih =>
    have hstep := List.isChain_iff_getElem.mp h (i + d) (by omega)
    have hih := ih (by omega)
    have hget : values[i + (d + 1)] = values[i + d + 1] := rfl
    rw [hget, Nat.cast_succ, mul_add_one]
    constructor <;> omega

theorem CountsUp.ascends (h : CountsUp k values) (hk : k < 2 ^ (n - 1)) :
    Ascends (values.map (BitVec.ofInt n)) := by
  apply (List.isChain_map _).mpr
  apply List.IsChain.imp _ h
  rintro new old ⟨hlt, hle⟩
  have hpow : (2 : ℤ) ^ (n - 1) ≤ 2 ^ n := pow_le_pow_right₀ (by decide) (Nat.sub_le n 1)
  rw [Succeeds, toNat_ofInt_sub hlt.le (by omega)]
  refine ⟨by omega, ?_⟩
  rw [← Int.ofNat_lt, Int.toNat_of_nonneg (by omega)]
  push_cast
  omega

theorem CountsUp.distinctWithin (h : CountsUp k values) {m : ℕ} (hk : k * m ≤ 2 ^ n) (hpos : 0 < k) :
    DistinctWithin m (values.map (BitVec.ofInt n)) := by
  intro i j hi hj hij hm heq
  obtain ⟨d, rfl⟩ := Nat.exists_eq_add_of_lt hij
  rw [List.length_map] at hi hj
  have hdist := h.distance i (d + 1) hj
  have hround : k * ((d + 1 : ℕ) : ℤ) < k * m := mul_lt_mul_of_pos_left (by omega) hpos
  simp only [List.getElem_map] at heq
  change BitVec.ofInt n values[i] = BitVec.ofInt n values[i + (d + 1)] at heq
  have hsub := toNat_ofInt_sub (n := n) (a := values[i + (d + 1)]) (b := values[i]) (by omega) (by omega)
  rw [heq, BitVec.sub_self, BitVec.toNat_zero] at hsub
  omega

end Counter

end Sqrkal.Foundation
