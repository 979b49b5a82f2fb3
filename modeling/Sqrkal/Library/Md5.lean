import Sqrkal.Foundation.Blocks
import Sqrkal.Foundation.Memory

/-! # The MD5 digest of the library

An object is fed a message in parts of any length and is then finalized. However the
message is cut, the digest is that of the whole message in its padded blocks, and what
is fed to a finalized object does not change it.
-/

namespace Sqrkal.Library

open Sqrkal.Foundation

namespace MD5

/-- Four words, the one that the next operation replaces first. -/
structure Words where
  a : BitVec 32
  b : BitVec 32
  c : BitVec 32
  d : BitVec 32
deriving DecidableEq

def F (x y z : BitVec 32) : BitVec 32 := x &&& y ||| ~~~x &&& z

def G (x y z : BitVec 32) : BitVec 32 := x &&& z ||| y &&& ~~~z

def H (x y z : BitVec 32) : BitVec 32 := x ^^^ y ^^^ z

def I (x y z : BitVec 32) : BitVec 32 := y ^^^ (x ||| ~~~z)

def rotateLeft (x : BitVec 32) (n : ℕ) : BitVec 32 := x <<< n ||| x >>> (32 - n)

/-- The common text of the four operations, and the order of the words for the next one. -/
def operation (f : BitVec 32 → BitVec 32 → BitVec 32 → BitVec 32) (w : Words) (x : BitVec 32)
    (s : ℕ) (ac : BitVec 32) : Words :=
  ⟨w.d, rotateLeft (w.a + f w.b w.c w.d + x + ac) s + w.b, w.b, w.c⟩

def FF : Words → BitVec 32 → ℕ → BitVec 32 → Words := operation F

def GG : Words → BitVec 32 → ℕ → BitVec 32 → Words := operation G

def HH : Words → BitVec 32 → ℕ → BitVec 32 → Words := operation H

def II : Words → BitVec 32 → ℕ → BitVec 32 → Words := operation I

/-- What one call in `transform` names: the word of the block, the shift and the constant. -/
abbrev Row := ℕ × ℕ × BitVec 32

def rows1 : List Row :=
  [(0, 7, 0xd76aa478), (1, 12, 0xe8c7b756), (2, 17, 0x242070db), (3, 22, 0xc1bdceee),
   (4, 7, 0xf57c0faf), (5, 12, 0x4787c62a), (6, 17, 0xa8304613), (7, 22, 0xfd469501),
   (8, 7, 0x698098d8), (9, 12, 0x8b44f7af), (10, 17, 0xffff5bb1), (11, 22, 0x895cd7be),
   (12, 7, 0x6b901122), (13, 12, 0xfd987193), (14, 17, 0xa679438e), (15, 22, 0x49b40821)]

def rows2 : List Row :=
  [(1, 5, 0xf61e2562), (6, 9, 0xc040b340), (11, 14, 0x265e5a51), (0, 20, 0xe9b6c7aa),
   (5, 5, 0xd62f105d), (10, 9, 0x2441453), (15, 14, 0xd8a1e681), (4, 20, 0xe7d3fbc8),
   (9, 5, 0x21e1cde6), (14, 9, 0xc33707d6), (3, 14, 0xf4d50d87), (8, 20, 0x455a14ed),
   (13, 5, 0xa9e3e905), (2, 9, 0xfcefa3f8), (7, 14, 0x676f02d9), (12, 20, 0x8d2a4c8a)]

def rows3 : List Row :=
  [(5, 4, 0xfffa3942), (8, 11, 0x8771f681), (11, 16, 0x6d9d6122), (14, 23, 0xfde5380c),
   (1, 4, 0xa4beea44), (4, 11, 0x4bdecfa9), (7, 16, 0xf6bb4b60), (10, 23, 0xbebfbc70),
   (13, 4, 0x289b7ec6), (0, 11, 0xeaa127fa), (3, 16, 0xd4ef3085), (6, 23, 0x4881d05),
   (9, 4, 0xd9d4d039), (12, 11, 0xe6db99e5), (15, 16, 0x1fa27cf8), (2, 23, 0xc4ac5665)]

def rows4 : List Row :=
  [(0, 6, 0xf4292244), (7, 10, 0x432aff97), (14, 15, 0xab9423a7), (5, 21, 0xfc93a039),
   (12, 6, 0x655b59c3), (3, 10, 0x8f0ccc92), (10, 15, 0xffeff47d), (1, 21, 0x85845dd1),
   (8, 6, 0x6fa87e4f), (15, 10, 0xfe2ce6e0), (6, 15, 0xa3014314), (13, 21, 0x4e0811a1),
   (4, 6, 0xf7537e82), (11, 10, 0xbd3af235), (2, 15, 0x2ad7d2bb), (9, 21, 0xeb86d391)]

def decode : List Byte → List (BitVec 32)
  | b₀ :: b₁ :: b₂ :: b₃ :: bytes => (b₃ ++ b₂ ++ b₁ ++ b₀) :: decode bytes
  | _ => []

def encode (words : List (BitVec 32)) : List Byte := words.flatMap le32

def round (op : Words → BitVec 32 → ℕ → BitVec 32 → Words) (rows : List Row)
    (x : List (BitVec 32)) (w : Words) : Words :=
  rows.foldl (fun v r => op v (x.getD r.1 0) r.2.1 r.2.2) w

def transform (state : Words) (block : List Byte) : Words :=
  let x := decode block
  let w := round II rows4 x (round HH rows3 x (round GG rows2 x (round FF rows1 x state)))
  ⟨state.a + w.a, state.b + w.b, state.c + w.c, state.d + w.d⟩

/-- The loop over the whole blocks of the input behind the first: `none` if it does not end.
Its index is unsigned and has 32 bits. -/
def transformLoop (input : Mem) (length : BitVec 32) :
    ℕ → BitVec 32 → Words → Option (BitVec 32 × Words)
  | 0, _, _ => none
  | fuel + 1, i, state =>
    if i + 64 ≤ length then
      transformLoop input length fuel (i + 64) (transform state (input.read i.toNat 64))
    else some (i, state)

end MD5

structure MD5 where
  finalized : Bool
  buffer : Mem
  /-- The two halves of a counter of bits. -/
  count0 : BitVec 32
  count1 : BitVec 32
  state : MD5.Words
  digest : List Byte

namespace MD5

def initialState : Words := ⟨0x67452301, 0xefcdab89, 0x98badcfe, 0x10325476⟩

/-- The buffer and the digest stay what they were. -/
def init (m : MD5) : MD5 :=
  { m with finalized := false, count0 := 0, count1 := 0, state := initialState }

def update (m : MD5) (input : Mem) (length : BitVec 32) : Option MD5 :=
  let index := (m.count0 / 8 % 64).toNat
  let count0 := m.count0 + length <<< 3
  let carried := if count0 < length <<< 3 then m.count1 + 1 else m.count1
  let count1 := carried + length >>> 29
  let firstpart := 64 - index
  if firstpart ≤ length.toNat then
    let buffer := m.buffer.write index (input.read 0 firstpart)
    let state := transform m.state (buffer.read 0 64)
    (transformLoop input length (length.toNat / 64 + 1) (BitVec.ofNat 32 firstpart) state).map
      fun r =>
        { m with
          count0, count1
          state := r.2
          buffer := buffer.write 0 (input.read r.1.toNat (length - r.1).toNat) }
  else
    some { m with count0, count1, buffer := m.buffer.write index (input.read 0 length.toNat) }

def zeros : Mem := fun _ => 0

def padding : Mem := zeros.write 0 [0x80]

def finalize (m : MD5) : Option MD5 :=
  if m.finalized then some m else
    let bits := encode [m.count0, m.count1]
    let index := m.count0 / 8 % 64
    let padLen := if index < 56 then 56 - index else 120 - index
    (m.update padding padLen).bind fun m₁ =>
      (m₁.update (zeros.write 0 bits) 8#32).map fun m₂ =>
        { m₂ with
          digest := encode [m₂.state.a, m₂.state.b, m₂.state.c, m₂.state.d]
          buffer := zeros
          count0 := 0
          count1 := 0
          finalized := true }

/-- `sprintf` with `%02x`. -/
def hexByte (b : Byte) : List Byte :=
  [b.toNat / 16, b.toNat % 16].map fun n => BitVec.ofNat 8 (Nat.digitChar n).toNat

def hexdigest (m : MD5) : List Byte :=
  if m.finalized then m.digest.flatMap hexByte else []

/-! ## The loop and the counter -/

/-- The loop ends if its index cannot wrap: all blocks are taken, and the index stands where the
rest begins. -/
theorem transformLoop_feed {input : Mem} {length : BitVec 32}
    (hlen : length.toNat + 64 < 2 ^ 32) (fuel : ℕ) (i : BitVec 32) (state : Words)
    (hi : i.toNat ≤ length.toNat) (hfuel : (length.toNat - i.toNat) / 64 < fuel) :
    ∃ j, transformLoop input length fuel i state =
        some (j, (feed transform 64 state
          (input.read i.toNat (length.toNat - i.toNat))).1) ∧
      input.read j.toNat (length - j).toNat =
        (feed transform 64 state (input.read i.toNat (length.toNat - i.toNat))).2 := by
  induction fuel generalizing i state with
  | zero => omega
  | succ fuel ih =>
    have hnext : (i + 64).toNat = i.toNat + 64 := by
      simp only [BitVec.toNat_add, BitVec.reduceToNat]
      omega
    have htest : i + 64 ≤ length ↔ i.toNat + 64 ≤ length.toNat := by
      rw [BitVec.le_def, hnext]
    rw [transformLoop]
    by_cases h : i.toNat + 64 ≤ length.toNat
    · have hsplit : length.toNat - i.toNat = 64 + (length.toNat - (i + 64).toNat) := by omega
      have hread : input.read i.toNat (length.toNat - i.toNat) =
          input.read i.toNat 64 ++ input.read (i + 64).toNat (length.toNat - (i + 64).toNat) := by
        rw [hsplit, Mem.read_add, hnext]
        push_cast
        rfl
      rw [if_pos (htest.mpr h), hread, feed_block transform (by norm_num) (by simp),
        List.take_left' (by simp), List.drop_left' (by simp)]
      apply ih
      · omega
      · omega
    · rw [if_neg (mt htest.mp h), feed_short transform (by simp; omega)]
      refine ⟨i, rfl, ?_⟩
      rw [BitVec.toNat_sub_of_le (by simpa [BitVec.le_def] using hi)]

section Counter
variable (n : ℕ) (length : BitVec 32)

theorem count0_add :
    BitVec.ofNat 32 (8 * n) + length <<< 3 = BitVec.ofNat 32 (8 * (n + length.toNat)) := by
  apply BitVec.eq_of_toNat_eq
  simp only [BitVec.toNat_add, BitVec.toNat_ofNat, BitVec.toNat_shiftLeft, Nat.shiftLeft_eq]
  omega

theorem count1_add :
    (if BitVec.ofNat 32 (8 * n) + length <<< 3 < length <<< 3 then
        BitVec.ofNat 32 (8 * n / 2 ^ 32) + 1 else BitVec.ofNat 32 (8 * n / 2 ^ 32)) +
      length >>> 29 = BitVec.ofNat 32 (8 * (n + length.toNat) / 2 ^ 32) := by
  have hl := length.isLt
  apply BitVec.eq_of_toNat_eq
  simp only [BitVec.lt_def]
  split_ifs with h <;>
  · simp only [BitVec.toNat_add, BitVec.toNat_ofNat, BitVec.toNat_shiftLeft, Nat.shiftLeft_eq,
      BitVec.toNat_ushiftRight, Nat.shiftRight_eq_div_pow, BitVec.reduceToNat] at h ⊢
    omega

theorem index_eq : (BitVec.ofNat 32 (8 * n) / 8 % 64).toNat = n % 64 := by
  simp only [BitVec.toNat_umod, BitVec.toNat_udiv, BitVec.toNat_ofNat, BitVec.reduceToNat]
  omega

end Counter

/-! ## What an object has taken -/

/-- From the state `s` on the object has taken the bytes `xs`: whole blocks in the state, the
rest in the buffer. -/
structure HasTaken (s : Words) (m : MD5) (xs : List Byte) : Prop where
  count0 : m.count0 = BitVec.ofNat 32 (8 * xs.length)
  count1 : m.count1 = BitVec.ofNat 32 (8 * xs.length / 2 ^ 32)
  state : m.state = (feed transform 64 s xs).1
  buffer : m.buffer.read 0 (xs.length % 64) = (feed transform 64 s xs).2

theorem init_takes (junk : MD5) : HasTaken initialState junk.init [] where
  count0 := rfl
  count1 := rfl
  state := by simp [init]
  buffer := by simp [Mem.read]

/-- What is copied behind the first bytes of the buffer. -/
theorem read_write_behind (m : Mem) (k : ℕ) (bs : List Byte) :
    (m.write k bs).read 0 (k + bs.length) = m.read 0 k ++ bs := by
  rw [Mem.read_add, Mem.read_write_of_disjoint (by simp), zero_add, Mem.read_write_self]

section Update
variable {s : Words} {m : MD5} {xs : List Byte} {input : Mem} {length : BitVec 32}

theorem HasTaken.index (h : HasTaken s m xs) :
    (m.count0 / 8 % 64).toNat = xs.length % 64 := by
  rw [h.count0, index_eq]

variable (input length) in
theorem HasTaken.counted (h : HasTaken s m xs) :
    m.count0 + length <<< 3 =
      BitVec.ofNat 32 (8 * (xs ++ input.read 0 length.toNat).length) ∧
    (if m.count0 + length <<< 3 < length <<< 3 then m.count1 + 1 else m.count1) +
      length >>> 29 =
      BitVec.ofNat 32 (8 * (xs ++ input.read 0 length.toNat).length / 2 ^ 32) := by
  rw [h.count0, h.count1, List.length_append, Mem.read_length]
  exact ⟨count0_add _ _, count1_add _ _⟩

/-- The part of the message that does not fill the buffer. -/
theorem HasTaken.update_short (h : HasTaken s m xs)
    (hshort : length.toNat < 64 - xs.length % 64) :
    ∃ m', m.update input length = some m' ∧
      HasTaken s m' (xs ++ input.read 0 length.toNat) ∧
      m'.finalized = m.finalized ∧ m'.digest = m.digest := by
  have hrest : (feed transform 64 s (xs ++ input.read 0 length.toNat)) =
      ((feed transform 64 s xs).1, (feed transform 64 s xs).2 ++ input.read 0 length.toNat) := by
    have hlength := feed_rest_length transform (b := 64) (by norm_num) s xs
    rw [feed_append transform (by norm_num), feed_short]
    rw [List.length_append, Mem.read_length, hlength]
    omega
  have hcount := h.counted input length
  simp only [update, h.index]
  rw [if_neg (by omega)]
  refine ⟨_, rfl, ⟨hcount.1, hcount.2, ?_, ?_⟩, rfl, rfl⟩
  · simp [hrest, h.state]
  · have hmod : (xs ++ input.read 0 length.toNat).length % 64 =
        xs.length % 64 + (input.read 0 length.toNat).length := by
      simp only [List.length_append, Mem.read_length]
      omega
    rw [hmod, hrest, ← h.buffer]
    exact read_write_behind _ _ _

/-- The buffer is filled and taken, then the whole blocks of the input. -/
theorem HasTaken.update_long (h : HasTaken s m xs) (hlen : length.toNat + 64 < 2 ^ 32)
    (hlong : 64 - xs.length % 64 ≤ length.toNat) :
    ∃ m', m.update input length = some m' ∧
      HasTaken s m' (xs ++ input.read 0 length.toNat) ∧
      m'.finalized = m.finalized ∧ m'.digest = m.digest := by
  have hmod := Nat.mod_lt xs.length (y := 64) (by norm_num)
  obtain ⟨k, hk⟩ : ∃ k, k = 64 - xs.length % 64 := ⟨_, rfl⟩
  have hcount := h.counted input length
  have hsplit : input.read 0 length.toNat =
      input.read 0 k ++ input.read k (length.toNat - k) := by
    have hadd : length.toNat = k + (length.toNat - k) := by omega
    conv_lhs => rw [hadd, Mem.read_add, zero_add]
  have hfull : (m.buffer.write (xs.length % 64 : ℕ) (input.read 0 k)).read 0 64 =
      (feed transform 64 s xs).2 ++ input.read 0 k := by
    rw [← h.buffer, ← read_write_behind, Mem.read_length]
    congr 1
    omega
  have hfeed : feed transform 64 s (xs ++ input.read 0 length.toNat) =
      feed transform 64 (transform m.state
        ((m.buffer.write (xs.length % 64 : ℕ) (input.read 0 k)).read 0 64))
        (input.read k (length.toNat - k)) := by
    have hrest := feed_rest_length transform (b := 64) (by norm_num) s xs
    rw [feed_append transform (by norm_num), hfull, h.state, hsplit, feed_fill transform
      (by norm_num) (by omega) (by simp; omega)]
    simp [hrest, ← hk]
  have hto : (BitVec.ofNat 32 k).toNat = k := by
    simp only [BitVec.toNat_ofNat]
    omega
  obtain ⟨j, hloop, hread⟩ := @transformLoop_feed input length hlen (length.toNat / 64 + 1)
    (BitVec.ofNat 32 k) (transform m.state
      ((m.buffer.write (xs.length % 64 : ℕ) (input.read 0 k)).read 0 64)) (by omega) (by omega)
  rw [hto, ← hfeed] at hloop hread
  simp only [update, h.index, ← hk]
  rw [if_pos (by omega), hloop]
  refine ⟨_, rfl, ⟨hcount.1, hcount.2, rfl, ?_⟩, rfl, rfl⟩
  have hrest := feed_rest_length transform (b := 64) (by norm_num) s
    (xs ++ input.read 0 length.toNat)
  rw [← hrest, ← hread]
  exact Mem.read_write_self _ _ _

variable (input) in
theorem HasTaken.update (h : HasTaken s m xs) (hlen : length.toNat + 64 < 2 ^ 32) :
    ∃ m', m.update input length = some m' ∧
      HasTaken s m' (xs ++ input.read 0 length.toNat) ∧
      m'.finalized = m.finalized ∧ m'.digest = m.digest := by
  by_cases hlong : 64 - xs.length % 64 ≤ length.toNat
  · exact h.update_long hlen hlong
  · exact h.update_short (not_le.mp hlong)

end Update

/-! ## The digest -/

/-- The number of bits of `n` bytes, modulo `2 ^ 64`. -/
def bits (n : ℕ) : List Byte :=
  encode [BitVec.ofNat 32 (8 * n), BitVec.ofNat 32 (8 * n / 2 ^ 32)]

/-- A message in whole blocks: behind it stand a bit, zeros and the number of its bits. -/
def padded (xs : List Byte) : List Byte :=
  xs ++ (0x80 :: List.replicate ((119 - xs.length % 64) % 64) 0) ++ bits xs.length

def encodeState (w : Words) : List Byte := encode [w.a, w.b, w.c, w.d]

def digestOf (xs : List Byte) : List Byte :=
  encodeState (feed transform 64 initialState (padded xs)).1

theorem padLen_eq {index : BitVec 32} (h : index.toNat < 64) :
    (if index < 56 then 56 - index else 120 - index).toNat =
      1 + (119 - index.toNat) % 64 := by
  simp only [BitVec.lt_def, BitVec.reduceToNat]
  split_ifs with h56 <;>
  · simp only [BitVec.toNat_sub, BitVec.reduceToNat]
    omega

theorem padding_read (n : ℕ) : padding.read 0 (1 + n) = 0x80 :: List.replicate n 0 := by
  have hzeros : ∀ off : ℤ, 1 ≤ off → padding.read off n = List.replicate n 0 := by
    intro off h
    rw [padding, Mem.read_write_of_disjoint (by simpa using Or.inr h)]
    clear h
    induction n generalizing off with
    | zero => rfl
    | succ n ih => rw [Mem.read, ih, List.replicate_succ]; rfl
  rw [Mem.read_add, Nat.cast_one, zero_add, hzeros 1 le_rfl]
  rfl

/-- A finalized object has the digest of what it had taken, and starts from nothing again, but
not from the initial state. -/
theorem HasTaken.finalize {s : Words} {m : MD5} {xs : List Byte} (h : HasTaken s m xs)
    (hopen : m.finalized = false) :
    ∃ m', m.finalize = some m' ∧ m'.finalized = true ∧
      m'.digest = encodeState (feed transform 64 s (padded xs)).1 ∧ HasTaken m'.state m' [] := by
  obtain ⟨padLen, hpad⟩ : ∃ p : BitVec 32, p = if m.count0 / 8 % 64 < 56 then
      56 - m.count0 / 8 % 64 else 120 - m.count0 / 8 % 64 := ⟨_, rfl⟩
  have hmod := Nat.mod_lt xs.length (y := 64) (by norm_num)
  have hlen : padLen.toNat = 1 + (119 - xs.length % 64) % 64 := by
    rw [hpad, padLen_eq (by rw [h.index]; exact hmod), h.index]
  have hbits : encode [m.count0, m.count1] = bits xs.length := by
    rw [h.count0, h.count1, bits]
  obtain ⟨m₁, h₁, ht₁, -, -⟩ := h.update padding (by omega : padLen.toNat + 64 < 2 ^ 32)
  obtain ⟨m₂, h₂, ht₂, -, -⟩ := ht₁.update (zeros.write 0 (bits xs.length))
    (by decide : (8#32).toNat + 64 < 2 ^ 32)
  have height : (zeros.write 0 (bits xs.length)).read 0 (8#32).toNat = bits xs.length :=
    Mem.read_write_self _ _ _
  rw [height, hlen, padding_read] at ht₂
  simp only [MD5.finalize, hopen, hbits, ← hpad, h₁, Option.bind_some, h₂]
  refine ⟨_, rfl, rfl, ?_, ?_⟩
  · rw [← padded] at ht₂
    simp [ht₂.state, encodeState]
  · constructor
    · rfl
    · rfl
    · simp
    · simp [Mem.read]

/-! ## Any calls -/

/-- A call of the public operations of an object. -/
inductive Call
  | update (input : Mem) (length : BitVec 32)
  | finalize

/-- No input is so long that the index of the loop over its blocks wraps. -/
def Call.Fits : Call → Prop
  | .update _ length => length.toNat + 64 < 2 ^ 32
  | .finalize => True

def Call.run (m : MD5) : Call → Option MD5
  | .update input length => m.update input length
  | .finalize => m.finalize

def runCalls (m : MD5) : List Call → Option MD5
  | [] => some m
  | call :: calls => (call.run m).bind fun m' => runCalls m' calls

/-- What is fed before the object is finalized, if it is. -/
def message : List Call → Option (List Byte)
  | [] => none
  | .finalize :: _ => some []
  | .update input length :: calls => (message calls).map (input.read 0 length.toNat ++ ·)

/-- A finalized object takes any more calls and keeps its digest. -/
theorem runCalls_finalized {s : Words} {m : MD5} {xs : List Byte} {calls : List Call}
    (h : HasTaken s m xs) (hdone : m.finalized = true) (hfits : ∀ c ∈ calls, c.Fits) :
    ∃ m', runCalls m calls = some m' ∧ m'.finalized = true ∧ m'.digest = m.digest := by
  induction calls generalizing m xs with
  | nil => exact ⟨m, rfl, hdone, rfl⟩
  | cons call calls ih =>
    have hrest := fun c hc => hfits c (List.mem_cons_of_mem _ hc)
    cases call with
    | update input length =>
      obtain ⟨m₁, h₁, ht₁, hf₁, hd₁⟩ := h.update input (hfits _ List.mem_cons_self)
      obtain ⟨m', h', hf', hd'⟩ := ih ht₁ (hf₁.trans hdone) hrest
      exact ⟨m', by simp [runCalls, Call.run, h₁, h'], hf', hd'.trans hd₁⟩
    | finalize =>
      obtain ⟨m', h', hf', hd'⟩ := ih h hdone hrest
      exact ⟨m', by simp [runCalls, Call.run, MD5.finalize, hdone, h'], hf', hd'⟩

/-- An object that is still open: the digest will be that of all it has taken by then. -/
theorem runCalls_open {m : MD5} {xs : List Byte} {calls : List Call}
    (h : HasTaken initialState m xs) (hopen : m.finalized = false)
    (hfits : ∀ c ∈ calls, c.Fits) :
    ∃ m', runCalls m calls = some m' ∧
      m'.hexdigest =
        ((message calls).map fun ys => (digestOf (xs ++ ys)).flatMap hexByte).getD [] := by
  induction calls generalizing m xs with
  | nil => exact ⟨m, rfl, by simp [hexdigest, hopen, message]⟩
  | cons call calls ih =>
    have hrest := fun c hc => hfits c (List.mem_cons_of_mem _ hc)
    cases call with
    | update input length =>
      obtain ⟨m₁, h₁, ht₁, hf₁, -⟩ := h.update input (hfits _ List.mem_cons_self)
      obtain ⟨m', h', hx⟩ := ih ht₁ (hf₁.trans hopen) hrest
      refine ⟨m', by simp [runCalls, Call.run, h₁, h'], ?_⟩
      rw [hx, message, Option.map_map]
      congr 2
      funext ys
      simp
    | finalize =>
      obtain ⟨m₁, h₁, hf₁, hd₁, ht₁⟩ := h.finalize hopen
      obtain ⟨m', h', hf', hd'⟩ := runCalls_finalized ht₁ hf₁ hrest
      refine ⟨m', by simp [runCalls, Call.run, h₁, h'], ?_⟩
      simp [hexdigest, hf', hd', hd₁, message, digestOf]

/-- A message fed in any parts: nothing before the object is finalized, and from then on the
digest of what had been fed until then. -/
theorem hexdigest_of_parts (junk : MD5) (calls : List Call) (h : ∀ c ∈ calls, c.Fits) :
    ∃ m, runCalls junk.init calls = some m ∧
      m.hexdigest = ((message calls).map fun xs => (digestOf xs).flatMap hexByte).getD [] := by
  have hopen := runCalls_open (init_takes junk) rfl h
  simpa only [List.nil_append] using hopen

theorem abc_in_parts : ∃ m,
    runCalls (init ⟨true, zeros, 7, 0, initialState, []⟩)
        [.update (zeros.write 0 [0x61]) 1, .update (zeros.write 0 [0x62, 0x63]) 2, .finalize,
          .update (zeros.write 0 [0x64]) 1] = some m ∧
      m.hexdigest =
        [0x39, 0x30, 0x30, 0x31, 0x35, 0x30, 0x39, 0x38, 0x33, 0x63, 0x64, 0x32,
         0x34, 0x66, 0x62, 0x30, 0x64, 0x36, 0x39, 0x36, 0x33, 0x66, 0x37, 0x64,
         0x32, 0x38, 0x65, 0x31, 0x37, 0x66, 0x37, 0x32] := by
  have hfits : ∀ c ∈ [Call.update (zeros.write 0 [0x61]) 1,
      .update (zeros.write 0 [0x62, 0x63]) 2, .finalize, .update (zeros.write 0 [0x64]) 1],
      c.Fits := by
    simp [Call.Fits]
  obtain ⟨m, h, hx⟩ := hexdigest_of_parts ⟨true, zeros, 7, 0, initialState, []⟩ _ hfits
  refine ⟨m, h, hx.trans ?_⟩
  decide +kernel

end MD5

/-- The digest of a string, in an object that starts with any contents. -/
def md5 (junk : MD5) (str : List Byte) : Option (List Byte) :=
  (junk.init.update (MD5.zeros.write 0 str) (BitVec.ofNat 32 str.length)).bind fun m =>
    m.finalize.map MD5.hexdigest

theorem md5_eq (junk : MD5) {str : List Byte} (h : str.length + 64 < 2 ^ 32) :
    md5 junk str = some ((MD5.digestOf str).flatMap MD5.hexByte) := by
  have hlength : (BitVec.ofNat 32 str.length).toNat = str.length := by
    simp only [BitVec.toNat_ofNat]
    omega
  obtain ⟨m₁, h₁, ht₁, hf₁, -⟩ := (MD5.init_takes junk).update (MD5.zeros.write 0 str)
    (by omega : (BitVec.ofNat 32 str.length).toNat + 64 < 2 ^ 32)
  obtain ⟨m₂, h₂, hf₂, hd₂, -⟩ := ht₁.finalize hf₁
  rw [hlength, Mem.read_write_self, List.nil_append] at hd₂
  simp [md5, h₁, h₂, MD5.hexdigest, hf₂, hd₂, MD5.digestOf]

end Sqrkal.Library
