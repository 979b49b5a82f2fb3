import Sqrkal.Foundation.Word
import Mathlib.Data.List.TakeWhile

/-! # Flat memory around a character buffer

Addresses are integers relative to the start of a buffer, so a pointer computed
backwards from the end of a short packet may leave the buffer on either side.
A write replaces one interval of addresses and nothing else.
-/

namespace Sqrkal.Foundation

abbrev Mem := ℤ → Byte

namespace Mem

/-- `memcpy` of a byte list to an offset. -/
def write (m : Mem) (off : ℤ) (bs : List Byte) : Mem := fun a =>
  if off ≤ a ∧ a < off + bs.length then bs.getD (a - off).toNat 0#8 else m a

/-- The `n` bytes that start at an offset. -/
def read (m : Mem) (off : ℤ) : ℕ → List Byte
  | 0 => []
  | n + 1 => m off :: read m (off + 1) n

def load16 (m : Mem) (a : ℤ) : BitVec 16 := m (a + 1) ++ m a

def load32 (m : Mem) (a : ℤ) : BitVec 32 := m (a + 3) ++ m (a + 2) ++ m (a + 1) ++ m a

def store16 (m : Mem) (a : ℤ) (x : BitVec 16) : Mem := m.write a (le16 x)

def store32 (m : Mem) (a : ℤ) (x : BitVec 32) : Mem := m.write a (le32 x)

/-- The same memory seen from a pointer further on. -/
def shift (m : Mem) (k : ℤ) : Mem := fun a => m (a + k)

/-- A received byte string, with the given bytes around it. -/
def around (m : Mem) (bs : List Byte) : Mem := m.write 0 bs

def AgreesOn (m m' : Mem) (lo hi : ℤ) : Prop := ∀ a, lo ≤ a → a < hi → m a = m' a

theorem write_apply_inside (m : Mem) (off : ℤ) (bs : List Byte) (i : ℕ) (h : i < bs.length) :
    (m.write off bs) (off + i) = bs[i] := by
  unfold write
  rw [if_pos (by omega)]
  simp [h]

section Frame
variable {m m' m'' : Mem} {off lo hi a : ℤ} {bs : List Byte}

theorem write_apply_outside (h : a < off ∨ off + bs.length ≤ a) : (m.write off bs) a = m a := by
  unfold write
  rw [if_neg (by omega)]

theorem AgreesOn.refl : AgreesOn m m lo hi := fun _ _ _ => rfl

theorem AgreesOn.symm (h : AgreesOn m m' lo hi) : AgreesOn m' m lo hi :=
  fun a ha hb => (h a ha hb).symm

theorem AgreesOn.trans (h : AgreesOn m m' lo hi) (h' : AgreesOn m' m'' lo hi) :
    AgreesOn m m'' lo hi :=
  fun a ha hb => (h a ha hb).trans (h' a ha hb)

theorem AgreesOn.mono {lo' hi' : ℤ} (h : AgreesOn m m' lo hi) (hl : lo ≤ lo') (hh : hi' ≤ hi) :
    AgreesOn m m' lo' hi' :=
  fun a ha hb => h a (hl.trans ha) (lt_of_lt_of_le hb hh)

/-- A write leaves every interval before it and every interval after it alone. -/
theorem write_agreesOn (h : hi ≤ off ∨ off + bs.length ≤ lo) :
    AgreesOn (m.write off bs) m lo hi := by
  intro a ha hb
  apply write_apply_outside
  omega

/-- The same bytes written to both leave them in agreement. -/
theorem AgreesOn.write (h : AgreesOn m m' lo hi) :
    AgreesOn (m.write off bs) (m'.write off bs) lo hi := by
  intro a ha hb
  simp only [Mem.write]
  rw [h a ha hb]

theorem AgreesOn.load16 (h : AgreesOn m m' lo hi) (ha : lo ≤ a) (hb : a + 2 ≤ hi) :
    m.load16 a = m'.load16 a := by
  simp only [Mem.load16, h (a + 1) (by omega) (by omega), h a (by omega) (by omega)]

theorem AgreesOn.load32 (h : AgreesOn m m' lo hi) (ha : lo ≤ a) (hb : a + 4 ≤ hi) :
    m.load32 a = m'.load32 a := by
  simp only [Mem.load32, h (a + 3) (by omega) (by omega), h (a + 2) (by omega) (by omega),
    h (a + 1) (by omega) (by omega), h a (by omega) (by omega)]

theorem AgreesOn.shift {k : ℤ} (h : AgreesOn m m' (lo + k) (hi + k)) :
    AgreesOn (m.shift k) (m'.shift k) lo hi :=
  fun a ha hb => h (a + k) (by omega) (by omega)

theorem AgreesOn.read {n : ℕ} (h : AgreesOn m m' lo hi) (ha : lo ≤ off) (hb : off + n ≤ hi) :
    m.read off n = m'.read off n := by
  induction n generalizing off with
  | zero => rfl
  | succ n ih =>
    rw [Mem.read, Mem.read, h off ha (by omega), ih (by omega) (by omega)]

end Frame

@[simp] theorem read_length (m : Mem) (off : ℤ) (n : ℕ) : (m.read off n).length = n := by
  induction n generalizing off with
  | zero => rfl
  | succ n ih => simp [read, ih]

theorem read_getElem (m : Mem) (off : ℤ) (n i : ℕ) (h : i < (m.read off n).length) :
    (m.read off n)[i] = m (off + i) := by
  induction n generalizing off i with
  | zero => simp at h
  | succ n ih =>
    cases i with
    | zero => simp [read]
    | succ i =>
      simp only [read, List.getElem_cons_succ]
      rw [ih]
      congr 1
      push_cast
      omega

theorem read_add (m : Mem) (off : ℤ) (n k : ℕ) :
    m.read off (n + k) = m.read off n ++ m.read (off + n) k := by
  induction n generalizing off with
  | zero => simp [read]
  | succ n ih =>
    rw [Nat.succ_add, read, read, ih, List.cons_append]
    congr 3
    push_cast
    omega

theorem read_write_self (m : Mem) (off : ℤ) (bs : List Byte) :
    (m.write off bs).read off bs.length = bs := by
  apply List.ext_getElem (by simp)
  intro i h₁ h₂
  rw [read_getElem, write_apply_inside _ _ _ _ h₂]

theorem read_eq_iff (m : Mem) (off : ℤ) (bs : List Byte) :
    m.read off bs.length = bs ↔ ∀ i (h : i < bs.length), m (off + i) = bs[i] := by
  constructor
  · intro h i hi
    have hr := read_getElem m off bs.length i (by simpa using hi)
    rw [← hr]
    simp only [h]
  · intro h
    apply List.ext_getElem (by simp)
    intro i h₁ h₂
    rw [read_getElem, h i h₂]

/-- Two reads of one length give the same bytes exactly if every byte is the same. -/
theorem read_eq_read_iff (m m' : Mem) (off off' : ℤ) (n : ℕ) :
    m.read off n = m'.read off' n ↔ ∀ i < n, m (off + i) = m' (off' + i) := by
  have h := read_eq_iff m off (m'.read off' n)
  simpa only [read_length, read_getElem] using h

theorem write_shift (m : Mem) (k : ℤ) (bs : List Byte) :
    (m.write k bs).shift k = (m.shift k).write 0 bs := by
  funext a
  simp only [shift, write]
  have h : (k ≤ a + k ∧ a + k < k + (bs.length : ℤ)) ↔ 0 ≤ a ∧ a < 0 + (bs.length : ℤ) := by
    omega
  rw [show a + k - k = a - 0 by omega]
  simp only [h]

/-- A copy of the first `n` bytes agrees with the original there. -/
theorem write_read_agreesOn (m m' : Mem) (n : ℕ) : AgreesOn (m.write 0 (m'.read 0 n)) m' 0 n := by
  intro a h0 hn
  rcases Int.eq_ofNat_of_zero_le h0 with ⟨i, rfl⟩
  have hi := write_apply_inside m 0 (m'.read 0 n) i (by simpa using hn)
  rw [read_getElem] at hi
  simpa using hi

/-- Bytes written back where they were read change nothing. -/
theorem write_read_self (m : Mem) (n : ℕ) : m.write 0 (m.read 0 n) = m := by
  funext a
  by_cases h : 0 ≤ a ∧ a < n
  · exact write_read_agreesOn m m n a h.1 h.2
  · apply write_apply_outside
    rw [read_length]
    omega

theorem read_write_read (m m' : Mem) (off : ℤ) {k n : ℕ} (h : k ≤ n) :
    (m.write off (m'.read 0 n)).read off k = m'.read 0 k := by
  apply List.ext_getElem (by simp)
  intro i h₁ h₂
  simp only [read_length] at h₁
  rw [read_getElem, read_getElem, write_apply_inside _ _ _ _ (by simp; omega), read_getElem]

theorem write_append (m : Mem) (off : ℤ) (bs cs : List Byte) :
    m.write off (bs ++ cs) = (m.write off bs).write (off + bs.length) cs := by
  funext a
  by_cases hb : off ≤ a ∧ a < off + bs.length
  · obtain ⟨i, rfl⟩ : ∃ i : ℕ, a = off + i := ⟨(a - off).toNat, by omega⟩
    have hi : i < bs.length := by omega
    have hl : i < (bs ++ cs).length := by simp; omega
    rw [write_apply_inside _ _ _ _ hl, write_apply_outside (by omega),
      write_apply_inside _ _ _ _ hi, List.getElem_append_left hi]
  · by_cases hc : off ≤ a ∧ a < off + (bs ++ cs).length
    · obtain ⟨i, rfl⟩ : ∃ i : ℕ, a = off + bs.length + i := ⟨(a - off - bs.length).toNat, by omega⟩
      have hi : i < cs.length := by simp at hc; omega
      have hl : bs.length + i < (bs ++ cs).length := by simp; omega
      have he : off + (bs.length : ℤ) + i = off + ((bs.length + i : ℕ) : ℤ) := by push_cast; ring
      rw [write_apply_inside _ _ _ _ hi, he, write_apply_inside _ _ _ _ hl]
      simp
    · simp only [List.length_append, Nat.cast_add] at hc
      rw [write_apply_outside (by simp; omega), write_apply_outside (by omega),
        write_apply_outside (by omega)]

section Disjoint
variable {m : Mem} {off a : ℤ} {bs : List Byte}

theorem load16_write_of_disjoint (h : a + 2 ≤ off ∨ off + bs.length ≤ a) :
    (m.write off bs).load16 a = m.load16 a :=
  (write_agreesOn h).load16 le_rfl le_rfl

theorem load32_write_of_disjoint (h : a + 4 ≤ off ∨ off + bs.length ≤ a) :
    (m.write off bs).load32 a = m.load32 a :=
  (write_agreesOn h).load32 le_rfl le_rfl

theorem read_write_of_disjoint {n : ℕ} (h : a + n ≤ off ∨ off + bs.length ≤ a) :
    (m.write off bs).read a n = m.read a n :=
  (write_agreesOn h).read le_rfl le_rfl

end Disjoint

theorem write_singleton (m : Mem) (a : ℤ) (b : Byte) : (m.write a [b]) a = b := by
  simpa using write_apply_inside m a [b] 0 (by simp)

section Words
variable (m : Mem) (a : ℤ)

@[simp] theorem load16_store16 (x : BitVec 16) : (m.store16 a x).load16 a = x := by
  have h0 := write_apply_inside m a (le16 x) 0 (by simp)
  have h1 := write_apply_inside m a (le16 x) 1 (by simp)
  simp only [Nat.cast_zero, Nat.cast_one, add_zero] at h0 h1
  rw [load16, store16, h0, h1]
  exact pair_bytes x

/-- Writing what is there. -/
theorem store16_load16 : m.store16 a (m.load16 a) = m := by
  have h0 := write_apply_inside m a (le16 (m.load16 a)) 0 (by simp)
  have h1 := write_apply_inside m a (le16 (m.load16 a)) 1 (by simp)
  simp only [Nat.cast_zero, Nat.cast_one, add_zero] at h0 h1
  funext x
  by_cases hx : x = a
  · rw [hx, store16, h0]
    simp [le16, load16]
  by_cases hy : x = a + 1
  · rw [hy, store16, h1]
    simp [le16, load16]
  · exact write_apply_outside (by simp; omega)

@[simp] theorem load32_store32 (x : BitVec 32) : (m.store32 a x).load32 a = x := by
  have h0 := write_apply_inside m a (le32 x) 0 (by simp)
  have h1 := write_apply_inside m a (le32 x) 1 (by simp)
  have h2 := write_apply_inside m a (le32 x) 2 (by simp)
  have h3 := write_apply_inside m a (le32 x) 3 (by simp)
  simp only [Nat.cast_zero, Nat.cast_one, Nat.cast_ofNat, add_zero] at h0 h1 h2 h3
  rw [load32, store32, h0, h1, h2, h3]
  exact quad_bytes x

theorem store16_agreesOn {lo hi : ℤ} (x : BitVec 16) (h : hi ≤ a ∨ a + 2 ≤ lo) :
    AgreesOn (m.store16 a x) m lo hi :=
  write_agreesOn (by simpa using h)

theorem store32_agreesOn {lo hi : ℤ} (x : BitVec 32) (h : hi ≤ a ∨ a + 4 ≤ lo) :
    AgreesOn (m.store32 a x) m lo hi :=
  write_agreesOn (by simpa using h)

end Words

/-- An array of words, stored one after the other. -/
def storeWords (m : Mem) (a : ℤ) (ws : List (BitVec 32)) : Mem := m.write a (ws.flatMap le32)

theorem flatMap_le32_length (ws : List (BitVec 32)) :
    (ws.flatMap le32).length = 4 * ws.length := by
  induction ws with
  | nil => rfl
  | cons w ws ih => simp only [List.flatMap_cons, List.length_append, le32_length, ih,
      List.length_cons]; omega

theorem storeWords_agreesOn {m : Mem} {a lo hi : ℤ} {ws : List (BitVec 32)}
    (h : hi ≤ a ∨ a + 4 * ws.length ≤ lo) : AgreesOn (m.storeWords a ws) m lo hi := by
  apply write_agreesOn
  rw [flatMap_le32_length]
  omega

theorem load32_storeWords (m : Mem) (a : ℤ) (ws : List (BitVec 32)) (i : ℕ) (h : i < ws.length) :
    (m.storeWords a ws).load32 (a + 4 * i) = ws[i] := by
  induction ws generalizing m a i with
  | nil => simp at h
  | cons w ws ih =>
    have hs : m.storeWords a (w :: ws) = (m.store32 a w).storeWords (a + 4) ws := by
      rw [storeWords, List.flatMap_cons, write_append]
      rfl
    rw [hs]
    cases i with
    | zero =>
      have hag : AgreesOn ((m.store32 a w).storeWords (a + 4) ws) (m.store32 a w) a (a + 4) :=
        storeWords_agreesOn (Or.inl le_rfl)
      rw [hag.load32 (by simp) (by simp)]
      simp
    | succ i =>
      have ha : a + 4 * ((i + 1 : ℕ) : ℤ) = a + 4 + 4 * i := by push_cast; ring
      rw [ha, ih _ _ _ (by simpa using h)]
      rfl

/-! ## C strings -/

/-- What a C string function sees of a byte string: the bytes before the first NUL. -/
def cstr (s : List Byte) : List Byte := s.takeWhile (· ≠ 0#8)

/-- `strcpy` from the characters of a `std::string`: the C string and its terminator. -/
def strcpy (m : Mem) (off : ℤ) (s : List Byte) : Mem := m.write off (cstr s ++ [0#8])

theorem cstr_length_le (s : List Byte) : (cstr s).length ≤ s.length :=
  (List.takeWhile_prefix _).length_le

theorem cstr_of_no_nul {s : List Byte} (h : 0#8 ∉ s) : cstr s = s := by
  rw [cstr, List.takeWhile_eq_self_iff]
  intro b hb
  simpa using fun h0 : b = 0#8 => h (h0 ▸ hb)

theorem strcpy_agreesOn {m : Mem} {off lo hi : ℤ} {s : List Byte}
    (h : hi ≤ off ∨ off + s.length + 1 ≤ lo) : AgreesOn (m.strcpy off s) m lo hi := by
  apply write_agreesOn
  have := cstr_length_le s
  simp only [List.length_append, List.length_singleton]
  omega

theorem strcpy_cons_nul (m : Mem) (off : ℤ) (s : List Byte) :
    m.strcpy off (0#8 :: s) = m.write off [0#8] := by
  simp [strcpy, cstr]

theorem strcpy_cons (m : Mem) (off : ℤ) {b : Byte} (hb : b ≠ 0#8) (s : List Byte) :
    m.strcpy off (b :: s) = (m.write off [b]).strcpy (off + 1) s := by
  have hc : cstr (b :: s) = b :: cstr s := by simp [cstr, hb]
  rw [strcpy, hc, show b :: cstr s ++ [0#8] = [b] ++ (cstr s ++ [0#8]) from rfl, write_append]
  rfl

/-- Copying a NUL-free vector as a C string transports it whole. -/
theorem strcpy_read_of_no_nul (m : Mem) (off : ℤ) {s : List Byte} (h : 0#8 ∉ s) :
    (m.strcpy off s).read off s.length = s := by
  have hag : AgreesOn (m.strcpy off s) (m.write off s) off (off + s.length) := by
    rw [strcpy, cstr_of_no_nul h, write_append]
    exact write_agreesOn (Or.inl le_rfl)
  rw [hag.read le_rfl le_rfl, read_write_self]

/-- A vector survives a C string copy into an arbitrary buffer exactly when no
byte other than the last is NUL: the terminator itself stands in for a final
NUL, and whatever follows an earlier one is never written. -/
theorem strcpy_read_eq_iff (off : ℤ) (s : List Byte) :
    (∀ m : Mem, (m.strcpy off s).read off s.length = s) ↔ 0#8 ∉ s.dropLast := by
  induction s generalizing off with
  | nil => simp [read]
  | cons b s ih =>
    have hstep (m : Mem) (v : List Byte) (h : v.length = 1) :
        ((m.write off v).strcpy (off + 1) s).read off (s.length + 1) =
          v ++ (m.strcpy (off + 1) s).read (off + 1) s.length := by
      rcases List.length_eq_one_iff.mp h with ⟨c, rfl⟩
      have h0 : ((m.write off [c]).strcpy (off + 1) s) off = c := by
        rw [strcpy_agreesOn (Or.inl le_rfl) off le_rfl (by omega)]
        simpa using write_apply_inside m off [c] 0 (by simp)
      rw [read, h0, List.singleton_append]
      congr 1
      have hw : AgreesOn ((m.write off [c]).strcpy (off + 1) s) (m.strcpy (off + 1) s)
          (off + 1) (off + 1 + s.length) := by
        intro a ha hb
        simp only [strcpy, write]
        split_ifs <;> first | rfl | (simp at *; omega)
      exact hw.read le_rfl le_rfl
    by_cases hb : b = 0#8
    · subst hb
      cases s with
      | nil =>
        simp only [List.dropLast_singleton, List.not_mem_nil, not_false_eq_true, iff_true]
        intro m
        rw [strcpy_cons_nul]
        exact read_write_self m off [0#8]
      | cons c s =>
        simp only [List.dropLast_cons_cons, List.mem_cons, true_or, not_true_eq_false, iff_false]
        intro h
        -- the byte after the terminator keeps whatever the buffer held
        have hm := (read_eq_iff _ _ _).mp (h fun _ => c + 1) 1 (by simp)
        rw [strcpy_cons_nul, write_apply_outside (by simp)] at hm
        simp at hm
    · have hc : 0#8 ∉ (b :: s).dropLast ↔ 0#8 ∉ s.dropLast := by
        cases s with
        | nil => simp
        | cons c s => simp [Ne.symm hb]
      rw [hc, ← ih (off + 1)]
      constructor
      · intro h m
        have hm := h m
        rw [strcpy_cons m off hb, List.length_cons, hstep m [b] rfl] at hm
        simpa using hm
      · intro h m
        rw [strcpy_cons m off hb, List.length_cons, hstep m [b] rfl, h m]
        rfl

end Mem

end Sqrkal.Foundation
