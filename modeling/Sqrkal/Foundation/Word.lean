import Mathlib.Tactic

/-! # Machine words and byte order on a little-endian host

Bytes, half words and words are bit vectors, and concatenation writes the most
significant part first. The two conversions between host and network order are
the usual byte reversals, so each is its own inverse.
-/

namespace Sqrkal.Foundation

abbrev Byte := BitVec 8

/-- The `k`-th byte of a word, counted from the least significant end. -/
def byteOf {w : ℕ} (k : ℕ) (x : BitVec w) : Byte := x.extractLsb' (8 * k) 8

def le16 (x : BitVec 16) : List Byte := [byteOf 0 x, byteOf 1 x]

def le32 (x : BitVec 32) : List Byte := [byteOf 0 x, byteOf 1 x, byteOf 2 x, byteOf 3 x]

def htons (x : BitVec 16) : BitVec 16 := byteOf 0 x ++ byteOf 1 x

def htonl (x : BitVec 32) : BitVec 32 := byteOf 0 x ++ byteOf 1 x ++ byteOf 2 x ++ byteOf 3 x

@[simp] theorem le16_length (x : BitVec 16) : (le16 x).length = 2 := rfl

@[simp] theorem le32_length (x : BitVec 32) : (le32 x).length = 4 := rfl

@[simp] theorem byteOf_zero_pair (b a : Byte) : byteOf 0 (b ++ a) = a := by
  ext i hi
  simp only [byteOf, BitVec.getElem_extractLsb', BitVec.getLsbD_append]
  grind

@[simp] theorem byteOf_one_pair (b a : Byte) : byteOf 1 (b ++ a) = b := by
  ext i hi
  simp only [byteOf, BitVec.getElem_extractLsb', BitVec.getLsbD_append]
  grind

section Quad
variable (d c b a : Byte)

@[simp] theorem byteOf_zero_quad : byteOf 0 (d ++ c ++ b ++ a) = a := by
  ext i hi
  simp only [byteOf, BitVec.getElem_extractLsb', BitVec.getLsbD_append]
  grind

@[simp] theorem byteOf_one_quad : byteOf 1 (d ++ c ++ b ++ a) = b := by
  ext i hi
  simp only [byteOf, BitVec.getElem_extractLsb', BitVec.getLsbD_append]
  grind

@[simp] theorem byteOf_two_quad : byteOf 2 (d ++ c ++ b ++ a) = c := by
  ext i hi
  simp only [byteOf, BitVec.getElem_extractLsb', BitVec.getLsbD_append]
  grind

@[simp] theorem byteOf_three_quad : byteOf 3 (d ++ c ++ b ++ a) = d := by
  ext i hi
  simp only [byteOf, BitVec.getElem_extractLsb', BitVec.getLsbD_append]
  grind

end Quad

@[simp] theorem pair_bytes (x : BitVec 16) : byteOf 1 x ++ byteOf 0 x = x := by
  ext i hi
  simp only [byteOf, BitVec.getElem_append, BitVec.getElem_extractLsb']
  grind

@[simp] theorem quad_bytes (x : BitVec 32) :
    byteOf 3 x ++ byteOf 2 x ++ byteOf 1 x ++ byteOf 0 x = x := by
  ext i hi
  simp only [byteOf, BitVec.getElem_append, BitVec.getElem_extractLsb']
  grind

@[simp] theorem htons_htons (x : BitVec 16) : htons (htons x) = x := by
  simp [htons]

@[simp] theorem htonl_htonl (x : BitVec 32) : htonl (htonl x) = x := by
  simp [htonl]

theorem htons_pair (b a : Byte) : htons (b ++ a) = a ++ b := by
  simp [htons]

theorem htonl_quad (d c b a : Byte) : htonl (d ++ c ++ b ++ a) = a ++ b ++ c ++ d := by
  simp [htonl]

@[simp] theorem htonl_zero : htonl 0 = 0 := rfl

theorem htonl_eq_zero {x : BitVec 32} : htonl x = 0 ↔ x = 0 := by
  constructor
  · intro h
    rw [← htonl_htonl x, h, htonl_zero]
  · rintro rfl
    exact htonl_zero

end Sqrkal.Foundation
