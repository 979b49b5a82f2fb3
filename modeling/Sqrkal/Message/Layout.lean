import Sqrkal.Foundation.Memory

/-! # Memory images of the RTP and SRPP headers

The bit fields are those of the little-endian branch of `rtp.hpp` and
`SRPPMessage.hpp`. The SRPP header repeats the 72 bytes of the RTP header and
adds the profile word, the extension length and the signalling word.
-/

namespace Sqrkal.Message
open Foundation

abbrev Csrc := Fin 15 → BitVec 32

structure RTPHeader where
  cc : BitVec 4
  x : BitVec 1
  p : BitVec 1
  version : BitVec 2
  pt : BitVec 7
  m : BitVec 1
  seq : BitVec 16
  ts : BitVec 32
  ssrc : BitVec 32
  csrc : Csrc
deriving DecidableEq

structure SRPPHeader extends RTPHeader where
  definedByProfile : BitVec 16
  extensionHeader : BitVec 16
  srppSignalling : BitVec 32
deriving DecidableEq

/-- `sizeof(RTP_Header)`. -/
def sizeofRTPHeader : ℤ := 72

/-- `sizeof(SRPPHeader)`. -/
def sizeofSRPPHeader : ℤ := 80

namespace RTPHeader

/-- The first octet: contributing-source count, extension and padding flag, version. -/
def octet0 (h : RTPHeader) : Byte := h.version ++ h.p ++ h.x ++ h.cc

/-- The second octet: payload type below the marker bit. -/
def octet1 (h : RTPHeader) : Byte := h.m ++ h.pt

def store (h : RTPHeader) (mem : Mem) (a : ℤ) : Mem :=
  (((((mem.write a [h.octet0]).write (a + 1) [h.octet1]).store16 (a + 2) h.seq).store32
    (a + 4) h.ts).store32 (a + 8) h.ssrc).storeWords (a + 12) (List.ofFn h.csrc)

def load (mem : Mem) (a : ℤ) : RTPHeader where
  cc := (mem a).extractLsb' 0 4
  x := (mem a).extractLsb' 4 1
  p := (mem a).extractLsb' 5 1
  version := (mem a).extractLsb' 6 2
  pt := (mem (a + 1)).extractLsb' 0 7
  m := (mem (a + 1)).extractLsb' 7 1
  seq := mem.load16 (a + 2)
  ts := mem.load32 (a + 4)
  ssrc := mem.load32 (a + 8)
  csrc i := mem.load32 (a + 12 + 4 * (i : ℕ))

end RTPHeader

namespace SRPPHeader

def store (h : SRPPHeader) (mem : Mem) (a : ℤ) : Mem :=
  (((h.toRTPHeader.store mem a).store16 (a + 72) h.definedByProfile).store16
    (a + 74) h.extensionHeader).store32 (a + 76) h.srppSignalling

def load (mem : Mem) (a : ℤ) : SRPPHeader where
  toRTPHeader := RTPHeader.load mem a
  definedByProfile := mem.load16 (a + 72)
  extensionHeader := mem.load16 (a + 74)
  srppSignalling := mem.load32 (a + 76)

end SRPPHeader

section Fields
variable (version : BitVec 2) (p x : BitVec 1) (cc : BitVec 4) (m : BitVec 1) (pt : BitVec 7)

@[simp] theorem octet0_cc : (version ++ p ++ x ++ cc).extractLsb' 0 4 = cc := by
  ext i hi
  simp only [BitVec.getElem_extractLsb', BitVec.getLsbD_append]
  grind

@[simp] theorem octet0_x : (version ++ p ++ x ++ cc).extractLsb' 4 1 = x := by
  ext i hi
  simp only [BitVec.getElem_extractLsb', BitVec.getLsbD_append]
  grind

@[simp] theorem octet0_p : (version ++ p ++ x ++ cc).extractLsb' 5 1 = p := by
  ext i hi
  simp only [BitVec.getElem_extractLsb', BitVec.getLsbD_append]
  grind

@[simp] theorem octet0_version : (version ++ p ++ x ++ cc).extractLsb' 6 2 = version := by
  ext i hi
  simp only [BitVec.getElem_extractLsb', BitVec.getLsbD_append]
  grind

@[simp] theorem octet1_pt : (m ++ pt).extractLsb' 0 7 = pt := by
  ext i hi
  simp only [BitVec.getElem_extractLsb', BitVec.getLsbD_append]
  grind

@[simp] theorem octet1_m : (m ++ pt).extractLsb' 7 1 = m := by
  ext i hi
  simp only [BitVec.getElem_extractLsb', BitVec.getLsbD_append]
  grind

/-- An octet is its four fields put back together. -/
theorem octet0_split (b : Byte) :
    b.extractLsb' 6 2 ++ b.extractLsb' 5 1 ++ b.extractLsb' 4 1 ++ b.extractLsb' 0 4 = b := by
  ext i hi
  simp only [BitVec.getElem_append, BitVec.getElem_extractLsb']
  grind

theorem octet1_split (b : Byte) : b.extractLsb' 7 1 ++ b.extractLsb' 0 7 = b := by
  ext i hi
  simp only [BitVec.getElem_append, BitVec.getElem_extractLsb']
  grind

end Fields

namespace RTPHeader

theorem octet0_load (mem : Mem) (a : ℤ) : (load mem a).octet0 = mem a := octet0_split _

theorem octet1_load (mem : Mem) (a : ℤ) : (load mem a).octet1 = mem (a + 1) := octet1_split _

theorem load_congr {mem mem' : Mem} {a : ℤ} (h : Mem.AgreesOn mem mem' a (a + 72)) :
    load mem a = load mem' a := by
  have hc : (fun i : Fin 15 => mem.load32 (a + 12 + 4 * ((i : ℕ) : ℤ))) =
      fun i : Fin 15 => mem'.load32 (a + 12 + 4 * ((i : ℕ) : ℤ)) := by
    funext i
    exact h.load32 (by omega) (by omega)
  simp only [load, h a (by omega) (by omega), h (a + 1) (by omega) (by omega),
    h.load16 (a := a + 2) (by omega) (by omega), h.load32 (a := a + 4) (by omega) (by omega),
    h.load32 (a := a + 8) (by omega) (by omega), hc]

theorem store_agreesOn (h : RTPHeader) {mem : Mem} {a lo hi : ℤ} (hd : hi ≤ a ∨ a + 72 ≤ lo) :
    Mem.AgreesOn (h.store mem a) mem lo hi := by
  unfold store
  refine (Mem.storeWords_agreesOn ?_).trans ((Mem.store32_agreesOn _ _ _ ?_).trans
    ((Mem.store32_agreesOn _ _ _ ?_).trans ((Mem.store16_agreesOn _ _ _ ?_).trans
      ((Mem.write_agreesOn ?_).trans (Mem.write_agreesOn ?_)))))
  · simp only [List.length_ofFn]; omega
  · omega
  · omega
  · omega
  · simp only [List.length_singleton]; omega
  · simp only [List.length_singleton]; omega

section Stored
variable (h : RTPHeader) (mem : Mem) (a : ℤ)

@[simp] theorem store_octet0 : (h.store mem a) a = h.octet0 := by
  simp only [store, Mem.store32, Mem.store16, Mem.storeWords]
  rw [Mem.write_apply_outside (by omega), Mem.write_apply_outside (by omega),
    Mem.write_apply_outside (by omega), Mem.write_apply_outside (by omega),
    Mem.write_apply_outside (by omega), Mem.write_singleton]

@[simp] theorem store_octet1 : (h.store mem a) (a + 1) = h.octet1 := by
  simp only [store, Mem.store32, Mem.store16, Mem.storeWords]
  rw [Mem.write_apply_outside (by omega), Mem.write_apply_outside (by omega),
    Mem.write_apply_outside (by omega), Mem.write_apply_outside (by omega), Mem.write_singleton]

@[simp] theorem store_seq : (h.store mem a).load16 (a + 2) = h.seq := by
  simp only [store, Mem.store32, Mem.storeWords]
  rw [Mem.load16_write_of_disjoint (by omega), Mem.load16_write_of_disjoint (by omega),
    Mem.load16_write_of_disjoint (by omega), Mem.load16_store16]

@[simp] theorem store_ts : (h.store mem a).load32 (a + 4) = h.ts := by
  simp only [store, Mem.storeWords]
  rw [Mem.load32_write_of_disjoint (by omega), Mem.store32,
    Mem.load32_write_of_disjoint (by omega), Mem.load32_store32]

@[simp] theorem store_ssrc : (h.store mem a).load32 (a + 8) = h.ssrc := by
  simp only [store, Mem.storeWords]
  rw [Mem.load32_write_of_disjoint (by omega), Mem.load32_store32]

@[simp] theorem store_csrc (i : Fin 15) :
    (h.store mem a).load32 (a + 12 + 4 * ((i : ℕ) : ℤ)) = h.csrc i := by
  rw [store, Mem.load32_storeWords _ _ _ _ (by simp), List.getElem_ofFn]

theorem load_store : load (h.store mem a) a = h := by
  cases h
  simp [load, octet0, octet1]

end Stored

end RTPHeader

namespace SRPPHeader

theorem load_congr {mem mem' : Mem} {a : ℤ} (h : Mem.AgreesOn mem mem' a (a + 80)) :
    load mem a = load mem' a := by
  simp only [load, RTPHeader.load_congr (h.mono le_rfl (by omega)),
    h.load16 (a := a + 72) (by omega) (by omega), h.load16 (a := a + 74) (by omega) (by omega),
    h.load32 (a := a + 76) (by omega) (by omega)]

theorem store_agreesOn (h : SRPPHeader) {mem : Mem} {a lo hi : ℤ} (hd : hi ≤ a ∨ a + 80 ≤ lo) :
    Mem.AgreesOn (h.store mem a) mem lo hi := by
  unfold store
  exact (Mem.store32_agreesOn _ _ _ (by omega)).trans ((Mem.store16_agreesOn _ _ _ (by omega)).trans
    ((Mem.store16_agreesOn _ _ _ (by omega)).trans (h.toRTPHeader.store_agreesOn (by omega))))

theorem load_store (h : SRPPHeader) (mem : Mem) (a : ℤ) : load (h.store mem a) a = h := by
  have hr : RTPHeader.load (h.store mem a) a = h.toRTPHeader := by
    have hag : Mem.AgreesOn (h.store mem a) (h.toRTPHeader.store mem a) a (a + 72) :=
      (Mem.store32_agreesOn _ _ _ (by omega)).trans
        ((Mem.store16_agreesOn _ _ _ (by omega)).trans (Mem.store16_agreesOn _ _ _ (by omega)))
    rw [RTPHeader.load_congr hag, RTPHeader.load_store]
  have hp : (h.store mem a).load16 (a + 72) = h.definedByProfile := by
    rw [store, Mem.store32, Mem.load16_write_of_disjoint (by omega), Mem.store16,
      Mem.load16_write_of_disjoint (by omega), Mem.load16_store16]
  have he : (h.store mem a).load16 (a + 74) = h.extensionHeader := by
    rw [store, Mem.store32, Mem.load16_write_of_disjoint (by omega), Mem.load16_store16]
  have hs : (h.store mem a).load32 (a + 76) = h.srppSignalling := Mem.load32_store32 _ _ _
  simp only [load, hr, hp, he, hs]

end SRPPHeader

end Sqrkal.Message
