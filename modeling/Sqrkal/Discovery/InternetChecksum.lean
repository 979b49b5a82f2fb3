import Sqrkal.Discovery.PassThrough
import Sqrkal.Foundation.Checksum

/-! # The checksum in a signed accumulator

`in_cksum` adds up all words in an `int` and folds the carries only at the end. Up to
65536 bytes the sum fits, so the result is the complement of the one's complement sum, and
a buffer that has its own checksum stored in it adds up to nothing.
-/

namespace Sqrkal.Discovery
open Foundation Mem

/-! ## Sums of words -/

section Sums
variable {m m' : Mem}

theorem wordSum_add (m : Mem) (a : ℤ) (k n : ℕ) :
    wordSum m a (2 * k + n) = wordSum m a (2 * k) + wordSum m (a + 2 * k) n := by
  induction k generalizing a with
  | zero => simp [wordSum]
  | succ k ih =>
    have hstart : a + 2 + 2 * (k : ℤ) = a + 2 * ((k + 1 : ℕ) : ℤ) := by
      push_cast
      ring
    rw [show 2 * (k + 1) + n = 2 * k + n + 2 by ring, show 2 * (k + 1) = 2 * k + 2 by ring, wordSum,
      wordSum, ih, hstart, Nat.add_assoc]

theorem wordSum_congr {a : ℤ} {n : ℕ} (h : AgreesOn m m' a (a + n)) :
    wordSum m a n = wordSum m' a n := by
  fun_induction wordSum m a n with
  | case1 a => rfl
  | case2 a =>
    rw [wordSum, h a le_rfl (by simp)]
  | case3 a n ih =>
    rw [wordSum, ih (h.mono (by omega) (by push_cast; omega)),
      h.load16 le_rfl (by push_cast; omega)]

theorem wordSum_le (m : Mem) (a : ℤ) (n : ℕ) : wordSum m a n ≤ 65535 * ((n + 1) / 2) := by
  fun_induction wordSum m a n with
  | case1 a => simp
  | case2 a =>
    have hbyte := (m a).isLt
    omega
  | case3 a n ih =>
    have hword := (m.load16 a).isLt
    omega

/-- A word of the buffer counts in full. -/
theorem wordSum_store16 (m : Mem) (a : ℤ) (x : BitVec 16) {k n : ℕ} (hk : 2 * k + 2 ≤ n) :
    wordSum (m.store16 (a + 2 * k) x) a n = wordSum (m.store16 (a + 2 * k) 0) a n + x.toNat := by
  obtain ⟨j, rfl⟩ : ∃ j, n = 2 * k + (j + 2) := ⟨n - 2 * k - 2, by omega⟩
  have hlow : wordSum (m.store16 (a + 2 * k) x) a (2 * k) = wordSum (m.store16 (a + 2 * k) 0) a (2 * k) :=
    wordSum_congr ((store16_agreesOn m _ x (.inl (by push_cast; omega))).trans
      (store16_agreesOn m _ 0 (.inl (by push_cast; omega))).symm)
  have hhigh : wordSum (m.store16 (a + 2 * k) x) (a + 2 * k + 2) j =
      wordSum (m.store16 (a + 2 * k) 0) (a + 2 * k + 2) j :=
    wordSum_congr ((store16_agreesOn m _ x (.inr le_rfl)).trans (store16_agreesOn m _ 0 (.inr le_rfl)).symm)
  have hz : (0 : BitVec 16).toNat = 0 := rfl
  rw [wordSum_add, wordSum_add, wordSum, wordSum, load16_store16, load16_store16, hlow, hhigh, hz]
  ring

theorem inCksum_toNat (m : Mem) (n : ℕ) : (inCksum m n).toNat = 65535 - onesFold (wordSum m 0 n) := by
  unfold inCksum onesFold
  dsimp only
  rw [BitVec.toNat_not, BitVec.toNat_ofNat]

/-- The words of a buffer, a last odd byte extended by zeros. -/
def words (m : Mem) (a : ℤ) : ℕ → List ℕ
  | 0 => []
  | 1 => [(m a).toNat]
  | n + 2 => (m.load16 a).toNat :: words m (a + 2) n

theorem words_sum (m : Mem) (a : ℤ) (n : ℕ) : (words m a n).sum = wordSum m a n := by
  fun_induction wordSum m a n with
  | case1 a => rfl
  | case2 a => simp [words]
  | case3 a n ih => rw [words, List.sum_cons, ih]

theorem words_le (m : Mem) (a : ℤ) (n : ℕ) : ∀ w ∈ words m a n, w ≤ 65535 := by
  fun_induction words m a n with
  | case1 a => simp
  | case2 a =>
    have hbyte := (m a).isLt
    simp only [List.mem_singleton, forall_eq]
    omega
  | case3 a n ih =>
    have hword := (m.load16 a).isLt
    refine List.forall_mem_cons.mpr ⟨?_, ih⟩
    omega

end Sums

/-! ## The accumulator -/

/-- Addition of two values of type `int`, as far as it is defined. -/
def intAdd (a b : ℤ) : Option ℤ := if -2 ^ 31 ≤ a + b ∧ a + b < 2 ^ 31 then some (a + b) else none

/-- The loop of `in_cksum` and the odd byte behind it. -/
def addWords (m : Mem) (w : ℤ) : ℕ → ℤ → Option ℤ
  | 0, sum => some sum
  | 1, sum => intAdd sum (m w).toNat
  | nleft + 2, sum => do
    let sum ← intAdd sum (m.load16 w).toNat
    addWords m (w + 2) nleft sum

/-- `in_cksum` of the buffer at `addr`, unless the accumulator overflows. -/
def inCksumInt (m : Mem) (addr : ℤ) (len : ℕ) : Option (BitVec 16) := do
  let sum ← addWords m addr len 0
  let sum ← intAdd (sum / 2 ^ 16) (sum % 2 ^ 16)
  let sum ← intAdd sum (sum / 2 ^ 16)
  return BitVec.ofInt 16 (-sum - 1)

section Accumulator
variable {m : Mem} {a : ℤ} {n : ℕ}

theorem intAdd_eq {x y : ℤ} (h : -2 ^ 31 ≤ x + y ∧ x + y < 2 ^ 31) : intAdd x y = some (x + y) := if_pos h

theorem intAdd_eq_some {x y z : ℤ} (h : intAdd x y = some z) : z = x + y ∧ z < 2 ^ 31 := by
  unfold intAdd at h
  split_ifs at h with hr
  cases h
  exact ⟨rfl, hr.2⟩

/-- The loop adds up the words as long as their sum fits. -/
theorem addWords_eq (m : Mem) (a : ℤ) (n : ℕ) {sum : ℤ} (hs : 0 ≤ sum)
    (h : sum + wordSum m a n < 2 ^ 31) : addWords m a n sum = some (sum + wordSum m a n) := by
  fun_induction wordSum m a n generalizing sum with
  | case1 a => simp [addWords]
  | case2 a => exact intAdd_eq ⟨by omega, h⟩
  | case3 a n ih =>
    push_cast at h ⊢
    have hstep := intAdd_eq (x := sum) (y := (m.load16 a).toNat) ⟨by omega, by omega⟩
    rw [addWords, hstep, Option.bind_eq_bind, Option.bind_some, ih (by omega) (by omega), add_assoc]

/-- The loop overflows as soon as the sum does not fit. -/
theorem addWords_eq_some (m : Mem) (a : ℤ) (n : ℕ) {sum r : ℤ} (hs : sum < 2 ^ 31)
    (h : addWords m a n sum = some r) : r = sum + wordSum m a n ∧ r < 2 ^ 31 := by
  fun_induction wordSum m a n generalizing sum with
  | case1 a =>
    cases h
    exact ⟨by simp, hs⟩
  | case2 a => exact intAdd_eq_some h
  | case3 a n ih =>
    rw [addWords] at h
    rcases Option.bind_eq_some_iff.mp h with ⟨t, ht, h⟩
    rcases intAdd_eq_some ht with ⟨rfl, hlt⟩
    rcases ih hlt h with ⟨hr, hrlt⟩
    push_cast
    omega

/-- The complement of an `int` in its low sixteen bits. -/
theorem ofInt_complement (u : ℕ) : BitVec.ofInt 16 (-(u : ℤ) - 1) = BitVec.ofNat 16 (65535 - u % 2 ^ 16) := by
  apply BitVec.eq_of_toNat_eq
  rw [BitVec.toNat_ofInt, BitVec.toNat_ofNat]
  omega

/-- Both folds stay within the range of an `int`. -/
theorem inCksumInt_eq (h : wordSum m a n < 2 ^ 31) :
    inCksumInt m a n = some (BitVec.ofNat 16 (65535 - onesFold (wordSum m a n))) := by
  have hloop : addWords m a n 0 = some (wordSum m a n : ℤ) := by
    rw [addWords_eq m a n le_rfl (by omega), zero_add]
  obtain ⟨t, ht⟩ : ∃ t, t = wordSum m a n / 2 ^ 16 + wordSum m a n % 2 ^ 16 := ⟨_, rfl⟩
  have hfold : intAdd ((wordSum m a n : ℤ) / 2 ^ 16) ((wordSum m a n : ℤ) % 2 ^ 16) = some (t : ℤ) := by
    rw [intAdd_eq ⟨by omega, by omega⟩, ht]
    push_cast
    rfl
  have hagain : intAdd (t : ℤ) ((t : ℤ) / 2 ^ 16) = some ((t + t / 2 ^ 16 : ℕ) : ℤ) := by
    rw [intAdd_eq ⟨by omega, by omega⟩]
    push_cast
    rfl
  have hones : onesFold (wordSum m a n) = (t + t / 2 ^ 16) % 2 ^ 16 := by
    simp only [onesFold, ht]
  rw [hones]
  exact Option.bind_eq_some_iff.mpr ⟨_, hloop, Option.bind_eq_some_iff.mpr ⟨_, hfold,
    Option.bind_eq_some_iff.mpr ⟨_, hagain, congrArg some (ofInt_complement _)⟩⟩⟩

/-- A checksum comes out only of a sum that fits. -/
theorem inCksumInt_eq_some {c : BitVec 16} (h : inCksumInt m a n = some c) :
    wordSum m a n < 2 ^ 31 ∧ c = BitVec.ofNat 16 (65535 - onesFold (wordSum m a n)) := by
  rcases Option.bind_eq_some_iff.mp h with ⟨r, hr, -⟩
  rcases addWords_eq_some m a n (by decide) hr with ⟨hsum, hlt⟩
  have hfits : wordSum m a n < 2 ^ 31 := by omega
  rw [inCksumInt_eq hfits] at h
  exact ⟨hfits, (Option.some.inj h).symm⟩

theorem wordSum_fits (m : Mem) (a : ℤ) (h : n ≤ 65536) : wordSum m a n < 2 ^ 31 := by
  have hle := wordSum_le m a n
  omega

/-- The model of `in_cksum` without overflow is what the accumulator computes. -/
theorem inCksumInt_inCksum (m : Mem) (h : n ≤ 65536) : inCksumInt m 0 n = some (inCksum m n) := by
  rw [inCksumInt_eq (wordSum_fits m 0 h), ← inCksum_toNat, BitVec.ofNat_toNat, BitVec.setWidth_eq]

/-- Up to 65536 bytes nothing overflows, and the result is the complement of the one's
complement sum of the words. A word of the buffer that is cleared and then given the checksum
brings the checksum to zero. -/
theorem inCksumInt_verifies (m : Mem) (a : ℤ) (len : ℕ) :
    (len ≤ 65536 →
      inCksumInt m a len = some (~~~BitVec.ofNat 16 (onesSum (words m a len)))) ∧
    ∀ k, 2 * k + 2 ≤ len →
      (len ≤ 65536 → ∃ c, inCksumInt (m.store16 (a + 2 * k) 0) a len = some c ∧
        inCksumInt ((m.store16 (a + 2 * k) 0).store16 (a + 2 * k) c) a len = some 0) ∧
      ∀ c v, inCksumInt (m.store16 (a + 2 * k) 0) a len = some c →
        inCksumInt ((m.store16 (a + 2 * k) 0).store16 (a + 2 * k) c) a len = some v → v = 0 := by
  -- the result, from the sum
  have hsum (h : len ≤ 65536) :
      inCksumInt m a len = some (~~~BitVec.ofNat 16 (onesSum (words m a len))) := by
    have hfold : onesFold (wordSum m a len) = onesSum (words m a len) := by
      rw [← words_sum]
      have hfits := wordSum_fits m a h
      rw [← words_sum] at hfits
      exact onesFold_sum (words_le m a len) (by omega)
    have hle := onesFold_le (wordSum m a len)
    rw [inCksumInt_eq (wordSum_fits m a h), ← hfold, Option.some.injEq]
    apply BitVec.eq_of_toNat_eq
    rw [BitVec.toNat_ofNat, BitVec.toNat_not, BitVec.toNat_ofNat]
    omega
  -- the stored result, whenever both runs return
  have hstored : ∀ k, 2 * k + 2 ≤ len → ∀ c v,
      inCksumInt (m.store16 (a + 2 * k) 0) a len = some c →
      inCksumInt ((m.store16 (a + 2 * k) 0).store16 (a + 2 * k) c) a len = some v → v = 0 := by
    intro k hk c v hc hv
    rcases inCksumInt_eq_some hc with ⟨hfits, rfl⟩
    rcases inCksumInt_eq_some hv with ⟨-, rfl⟩
    let blank := m.store16 (a + 2 * k) 0
    have hsmall : wordSum blank a len < 2 ^ 31 := hfits
    have hblank : blank.store16 (a + 2 * k) 0 = blank := by
      have hload : blank.load16 (a + 2 * k) = 0 := load16_store16 m (a + 2 * k) 0
      rw [← hload]
      exact store16_load16 blank (a + 2 * k)
    have hle := onesFold_le (wordSum blank a len)
    have htop : onesFold (wordSum blank a len + (65535 - onesFold (wordSum blank a len)) + 0) = 65535 :=
      (complement_verifies_iff (by omega)).mpr rfl
    rw [wordSum_store16 blank a _ hk, hblank, BitVec.toNat_ofNat,
      Nat.mod_eq_of_lt (by omega : 65535 - onesFold (wordSum blank a len) < 2 ^ 16), ← Nat.add_zero
        (wordSum blank a len + _), htop]
    rfl
  refine ⟨hsum, fun k hk => ⟨fun hlen => ?_, hstored k hk⟩⟩
  have hc := inCksumInt_eq (wordSum_fits (m.store16 (a + 2 * k) 0) a hlen)
  have hv (c : BitVec 16) :=
    inCksumInt_eq (wordSum_fits ((m.store16 (a + 2 * k) 0).store16 (a + 2 * k) c) a hlen)
  refine ⟨_, hc, ?_⟩
  have hzero := hstored k hk _ _ hc (hv _)
  rw [hv, hzero]

/-- Five bytes with the field in the second word. -/
theorem inCksumInt_verifies_five :
    let m : Mem := around (fun _ => 0) [0x12, 0x34, 0xff, 0xff, 0x56]
    ∃ c, inCksumInt (m.store16 (0 + 2 * (1 : ℕ)) 0) 0 5 = some c ∧
      inCksumInt ((m.store16 (0 + 2 * (1 : ℕ)) 0).store16 (0 + 2 * (1 : ℕ)) c) 0 5 = some 0 :=
  ((inCksumInt_verifies _ 0 5).2 1 (by decide)).1 (by decide)

end Accumulator

end Sqrkal.Discovery
