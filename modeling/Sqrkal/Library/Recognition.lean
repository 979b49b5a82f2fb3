import Sqrkal.Library.DummyCache
import Sqrkal.Message.DecoderBounds

/-! # Recognising a dummy

A dummy carries its flag through a mask, two exclusive ors and a trailer found from
the length, and all of this comes out right. What can go wrong is the signalling
word of a constructed entry: it keeps the decoder from decrypting the pad count, so
that the key is taken for the pad count, and together with a stored payload type of
124 it makes the dummy a signalling message.
-/

namespace Sqrkal.Library
open Foundation Mem Message

/-- A receiver takes a datagram for a dummy: not for signalling, and not for media. -/
def Recognises (key : BitVec 32) (obj : SRPPMessage) (mem : Mem) (bytes : ℤ) : Prop :=
  isSignalingBuffer mem ≠ 1 ∧
    match networkToSrpp obj mem bytes key with
    | .ok (status, msg) => 0 ≤ status ∧ (decryptSrpp msg key).encryptedPart.dummyFlag = 1 ∧
        (unpad (decryptSrpp msg key)).1 = -1
    | .error _ => False

instance (key : BitVec 32) (obj : SRPPMessage) (mem : Mem) (bytes : ℤ) :
    Decidable (Recognises key obj mem bytes) := by
  unfold Recognises
  split <;> infer_instance

/-- The payload type of a datagram. -/
def payloadType (mem : Mem) : BitVec 7 := (mem 1).extractLsb' 0 7

theorem signalingClass_ne_one {signalling : BitVec 32} {pt : BitVec 7} :
    signalingClass signalling pt ≠ 1 ↔ signalling = 0 ∨ pt ≠ 124 := by
  unfold signalingClass
  by_cases hs : signalling = 0
  · refine ⟨fun _ => Or.inl hs, fun _ => ?_⟩
    rw [if_neg (fun h : signalling ≠ 0 ∧ pt = 124 => h.1 hs)]
    split_ifs <;> decide
  · rw [if_neg fun h => hs h.1]
    by_cases hp : pt = 124
    · rw [if_pos ⟨hs, hp⟩]
      exact ⟨fun h => absurd rfl h, fun h => absurd hp (h.resolve_left hs)⟩
    · rw [if_neg fun h => hp h.2]
      exact ⟨fun _ => Or.inr hp, fun _ => by decide⟩

section Decoder
variable {mem : Mem} {bytes : ℤ} {key : BitVec 32} (obj : SRPPMessage)

theorem takePayload_ok (msg : SRPPMessage) {data : ℤ} (padCount : BitVec 32) (h : 80 ≤ data) :
    ∃ m, takePayload msg mem data padCount = .ok (0, m) ∧
      m.encryptedPart.dummyFlag = msg.encryptedPart.dummyFlag := by
  unfold takePayload sizeofSRPPHeader
  dsimp only
  rw [if_neg (by omega)]
  exact ⟨_, rfl, rfl⟩

/-- A datagram with an acceptable pad count and room for it is decoded, with the flag of
its trailer. -/
theorem networkToSrpp_accepted (hpad : (seenPad mem bytes key).toNat ≤ 1500)
    (hroom : 80 + (if seenSignalling mem = 0 then ((seenPad mem bytes key).toNat : ℤ) else 0) + 12 ≤
      bytes) : ∃ m, networkToSrpp obj mem bytes key = .ok (0, m) ∧
        m.encryptedPart.dummyFlag = (mem.load16 (bytes - 8)).extractLsb' 0 15 := by
  by_cases hp : 0 < (seenPad mem bytes key).toNat ∧ seenSignalling mem = 0
  · rw [if_pos hp.2] at hroom
    rw [networkToSrpp_padded obj hpad hp]
    exact takePayload_ok _ _ (by omega)
  · rw [networkToSrpp_unpadded obj hpad hp]
    apply takePayload_ok
    split_ifs at hroom <;> omega

/-- A dummy flag under the key is recognised after decryption. -/
theorem decryptSrpp_dummy {msg : SRPPMessage} (h : msg.encryptedPart.dummyFlag = 1 ^^^ key.setWidth 15) :
    (decryptSrpp msg key).encryptedPart.dummyFlag = 1 ∧ (unpad (decryptSrpp msg key)).1 = -1 := by
  have hflag : (decryptSrpp msg key).encryptedPart.dummyFlag = 1 := by
    change (msg.encryptedPart.dummyFlag ^^^ key.setWidth 15) &&& 1 = 1
    rw [h, xor_xor_cancel]
    rfl
  refine ⟨hflag, ?_⟩
  rw [unpad, if_pos hflag]

/-- With the flag of a dummy in its trailer, a datagram is recognised if it is neither
signalling nor rejected. -/
theorem recognises_iff
    (hflag : (mem.load16 (bytes - 8)).extractLsb' 0 15 = 1 ^^^ key.setWidth 15)
    (hroom : (seenPad mem bytes key).toNat ≤ 1500 →
      80 + (if seenSignalling mem = 0 then ((seenPad mem bytes key).toNat : ℤ) else 0) + 12 ≤ bytes) :
    Recognises key obj mem bytes ↔ (mem.load32 76 = 0 ∨ payloadType mem ≠ 124) ∧
      (seenPad mem bytes key).toNat ≤ 1500 := by
  apply and_congr signalingClass_ne_one
  by_cases hpad : (seenPad mem bytes key).toNat ≤ 1500
  · rcases networkToSrpp_accepted obj hpad (hroom hpad) with ⟨m, hm, hf⟩
    rw [hm]
    exact ⟨fun _ => hpad, fun _ => ⟨le_rfl, decryptSrpp_dummy (hf.trans hflag)⟩⟩
  · rw [networkToSrpp_rejected obj (not_le.mp hpad)]
    exact ⟨fun h => absurd h.1 (by decide), fun h => absurd h hpad⟩

end Decoder

/-! ## A dummy on the wire -/

section Sender
variable {e : SRPPMessage} (he : IsEntry true e) (key : BitVec 32) (draw : ℕ)
include he

theorem encryptSrpp_dummyFlag :
    (encryptSrpp e key draw).encryptedPart.dummyFlag = 1 ^^^ key.setWidth 15 := by
  have hmask : ∀ v : BitVec 15, 1#15 &&& (v ||| 1#15) = 1#15 := by
    intro v
    ext i hi
    simp
    grind
  change (e.encryptedPart.dummyFlag &&& (_ ||| 1)) ^^^ key.setWidth 15 = _
  rw [he.dummyFlag]
  exact congrArg (· ^^^ key.setWidth 15) (hmask _)

/-- The pad count on the wire, as the codec sees it: the number of padding bytes, or the
key itself if there is a signalling word. -/
theorem encryptSrpp_wirePad (hk : key.toNat < 2 ^ 31) :
    wirePad (encryptSrpp e key draw) key =
      if e.srppHeader.srppSignalling = 0 then BitVec.ofNat 32 e.encryptedPart.srppPadding.length
      else key := by
  rcases he.padCount rfl with ⟨hcount, -⟩
  change maskPadCount (e.encryptedPart.padCount ^^^ key) key e.srppHeader.srppSignalling = _
  by_cases hs : e.srppHeader.srppSignalling = 0
  · rw [if_pos hs, hs, maskPadCount_xor _ _ hk, hcount]
  · rw [if_neg hs, maskPadCount, if_neg fun h => hs h.2, hcount, he.unpadded hs]
    exact BitVec.zero_xor

/-- The size the sender announces ends at the end of the trailer. -/
theorem encryptSrpp_size (hk : key.toNat < 2 ^ 31) :
    srppSize (encryptSrpp e key draw) = trailerAt (encryptSrpp e key draw) key + 12 := by
  rcases he.padCount rfl with ⟨-, hlen⟩
  have hpay : (encryptSrpp e key draw).encryptedPart.originalPayload.length =
      e.encryptedPart.originalPayload.length := List.length_map _
  have hpadding : (encryptSrpp e key draw).encryptedPart.srppPadding.length =
      e.encryptedPart.srppPadding.length := List.length_map _
  have hsig : (encryptSrpp e key draw).srppHeader.srppSignalling = e.srppHeader.srppSignalling := rfl
  unfold srppSize trailerAt Padded sizeofSRPPHeader
  rw [hpay, hpadding, hsig, encryptSrpp_wirePad he key draw hk]
  by_cases hs : e.srppHeader.srppSignalling = 0
  · rw [if_pos hs, BitVec.toNat_ofNat, Nat.mod_eq_of_lt (by omega)]
    simp only [hs, and_true]
    split_ifs <;> omega
  · rw [he.unpadded hs, if_neg fun h => hs h.2]
    simp

end Sender

/-- A dummy whose first forty bytes may have been overwritten: recognised unless it has a
signalling word, and then only with a small key and another payload type. -/
theorem recognises_dummy_iff {e : SRPPMessage} (he : IsEntry true e) {key : BitVec 32} (draw : ℕ)
    (hk : key.toNat < 2 ^ 31) {mem₀ wire mem : Mem}
    (hi : IsWire (encryptSrpp e key draw) key mem₀ wire)
    (ha : AgreesOn mem wire 40 (srppSize (encryptSrpp e key draw))) (obj : SRPPMessage) :
    Recognises key obj mem (srppSize (encryptSrpp e key draw)) ↔
      e.srppHeader.srppSignalling = 0 ∨ (key.toNat ≤ 1500 ∧ payloadType mem ≠ 124) := by
  rcases he.padCount rfl with ⟨-, hlen⟩
  rcases hi.header with ⟨csrc, hheader⟩
  have hsize := encryptSrpp_size he key draw hk
  have hge := trailerAt_ge (encryptSrpp e key draw) key
  rw [hsize] at ha ⊢
  have hcount := hi.padCount
  have hflags := hi.flags
  generalize trailerAt (encryptSrpp e key draw) key = n at ha hsize hge hcount hflags ⊢
  -- the words the decoder reads
  have hword : mem.load32 76 = htonl e.srppHeader.srppSignalling := by
    rw [ha.load32 (by omega) (by omega)]
    exact congrArg SRPPHeader.srppSignalling hheader
  have hseen : seenSignalling mem = e.srppHeader.srppSignalling := by
    rw [seenSignalling, hword, htonl_htonl]
  have hpad : seenPad mem (n + 12) key = wirePad (encryptSrpp e key draw) key := by
    rw [seenPad, hseen, show n + 12 - 12 = n by omega, ha.load32 (by omega) (by omega), hcount]
    rfl
  have hflag : (mem.load16 (n + 12 - 8)).extractLsb' 0 15 = 1 ^^^ key.setWidth 15 := by
    rw [show n + 12 - 8 = n + 4 by omega, ha.load16 (by omega) (by omega), hflags, flags_dummyFlag,
      encryptSrpp_dummyFlag he]
  have hroom : (seenPad mem (n + 12) key).toNat ≤ 1500 → 80 + (if seenSignalling mem = 0 then
      ((seenPad mem (n + 12) key).toNat : ℤ) else 0) + 12 ≤ n + 12 := by
    intro _
    have hfull : 80 + (e.encryptedPart.srppPadding.length : ℤ) + 12 ≤ n + 12 := by
      rw [← hsize, srppSize, sizeofSRPPHeader]
      change _ ≤ 80 + _ + ((e.encryptedPart.srppPadding.map _).length : ℤ) + 12
      rw [List.length_map]
      omega
    rw [hseen, hpad, encryptSrpp_wirePad he key draw hk]
    by_cases hs : e.srppHeader.srppSignalling = 0
    · rw [if_pos hs, if_pos hs, BitVec.toNat_ofNat, Nat.mod_eq_of_lt (by omega)]
      exact hfull
    · rw [if_neg hs]
      omega
  rw [recognises_iff obj hflag hroom, hword, htonl_eq_zero, hpad, encryptSrpp_wirePad he key draw hk]
  by_cases hs : e.srppHeader.srppSignalling = 0
  · have hsmall : (BitVec.ofNat 32 e.encryptedPart.srppPadding.length).toNat ≤ 1500 := by
      rw [BitVec.toNat_ofNat, Nat.mod_eq_of_lt (by omega)]
      omega
    rw [if_pos hs]
    exact ⟨fun _ => Or.inl hs, fun _ => ⟨Or.inl hs, hsmall⟩⟩
  · rw [if_neg hs]
    exact ⟨fun h => Or.inr ⟨h.2, h.1.resolve_left hs⟩,
      fun h => ⟨Or.inr (h.resolve_left hs).2, (h.resolve_left hs).1⟩⟩

end Sqrkal.Library
