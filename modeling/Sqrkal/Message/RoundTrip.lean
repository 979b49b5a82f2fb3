import Sqrkal.Message.Framing

/-! # One media packet from sender to receiver

The sender builds and encrypts a message and encodes it into a buffer with
arbitrary previous contents; the receiver decodes and decrypts it. Metadata
and framing survive whatever the payload is. The payload itself is copied as a
C string, which decides when it survives.
-/

namespace Sqrkal.Message
open Foundation Mem

/-- `rtp_to_srpp`, `srpp_to_network`, `network_to_srpp` on the same bytes, and
`decrypt_srpp`; the decoder's status and the receiver's message. -/
def mediaRoundTrip (f : Fresh) (rtp : RTPHeader) (data padding : List Byte) (key : BitVec 32)
    (draw : ℕ) (buff : Mem) (filler : Fin 15 → BitVec 32) (obj : SRPPMessage) :
    Except Fault (ℤ × SRPPMessage) := do
  let sent ← rtpToSrpp f rtp data padding key draw
  let wire ← srppToNetwork sent buff filler key
  let (status, received) ← networkToSrpp obj wire (srppSize sent) key
  return (status, decryptSrpp received key)

/-- The fields of a media message that must reach the receiver unchanged. -/
structure SameMetadata (a b : SRPPMessage) : Prop where
  version : a.srppHeader.version = b.srppHeader.version
  x : a.srppHeader.x = b.srppHeader.x
  cc : a.srppHeader.cc = b.srppHeader.cc
  m : a.srppHeader.m = b.srppHeader.m
  pt : a.srppHeader.pt = b.srppHeader.pt
  seq : a.srppHeader.seq = b.srppHeader.seq
  ts : a.srppHeader.ts = b.srppHeader.ts
  ssrc : a.srppHeader.ssrc = b.srppHeader.ssrc
  signalling : a.srppHeader.srppSignalling = b.srppHeader.srppSignalling
  seqNumber : a.encryptedPart.originalSeqNumber = b.encryptedPart.originalSeqNumber
  paddingBit : a.encryptedPart.originalPaddingBit = b.encryptedPart.originalPaddingBit

/-- The metadata of a message are those of an RTP header, with the numbers in host order. -/
structure CarriesHeader (rtp : RTPHeader) (msg : SRPPMessage) : Prop where
  version : msg.srppHeader.version = rtp.version
  x : msg.srppHeader.x = rtp.x
  cc : msg.srppHeader.cc = rtp.cc
  m : msg.srppHeader.m = rtp.m
  pt : msg.srppHeader.pt = rtp.pt
  ts : msg.srppHeader.ts = htonl rtp.ts
  ssrc : msg.srppHeader.ssrc = htonl rtp.ssrc
  signalling : msg.srppHeader.srppSignalling = 0
  seqNumber : msg.encryptedPart.originalSeqNumber = htons rtp.seq
  paddingBit : msg.encryptedPart.originalPaddingBit = rtp.p

theorem SameMetadata.carriesHeader {rtp : RTPHeader} {a b : SRPPMessage} (h : SameMetadata a b)
    (hb : CarriesHeader rtp b) : CarriesHeader rtp a where
  version := h.version.trans hb.version
  x := h.x.trans hb.x
  cc := h.cc.trans hb.cc
  m := h.m.trans hb.m
  pt := h.pt.trans hb.pt
  ts := h.ts.trans hb.ts
  ssrc := h.ssrc.trans hb.ssrc
  signalling := h.signalling.trans hb.signalling
  seqNumber := h.seqNumber.trans hb.seqNumber
  paddingBit := h.paddingBit.trans hb.paddingBit

theorem xor_xor_cancel {w : ℕ} (a b : BitVec w) : a ^^^ b ^^^ b = a := by
  rw [BitVec.xor_assoc, BitVec.xor_self, BitVec.xor_zero]

theorem map_xor_xor (bs : List Byte) (k : Byte) : (bs.map (· ^^^ k)).map (· ^^^ k) = bs := by
  rw [List.map_map]
  exact List.map_id'' (fun b => xor_xor_cancel b k) bs

/-- With a nonnegative key the codec undoes exactly the encryption of the pad count. -/
theorem maskPadCount_xor (n key : BitVec 32) (hk : key.toNat < 2 ^ 31) :
    maskPadCount (n ^^^ key) key 0 = n := by
  unfold maskPadCount
  by_cases h0 : 0 < key.toInt
  · rw [if_pos ⟨h0, rfl⟩, xor_xor_cancel]
  · have hz : key = 0 := by
      rw [BitVec.toInt_eq_toNat_cond, if_pos (by omega)] at h0
      apply BitVec.eq_of_toNat_eq
      change key.toNat = 0
      omega
    rw [if_neg (by simp [h0]), hz]
    simp

section Sender
variable (f : Fresh) (rtp : RTPHeader) (data padding : List Byte) (key : BitVec 32) (draw : ℕ)

/-- The message `rtp_to_srpp` builds from a header without contributing sources. -/
def plainMedia : SRPPMessage where
  srppHeader :=
    { (SRPPMessage.new f).srppHeader with
      version := rtp.version, cc := rtp.cc, x := rtp.x, m := rtp.m, pt := rtp.pt
      ts := htonl rtp.ts, ssrc := htonl rtp.ssrc, srppSignalling := 0 }
  encryptedPart :=
    { originalPayload := data, srppPadding := [], padCount := 0, dummyFlag := 0
      originalPaddingBit := rtp.p, originalSeqNumber := htons rtp.seq }
  authenticationTag := 0

theorem plainMedia_carriesHeader : CarriesHeader rtp (plainMedia f rtp data) := by
  constructor <;> rfl

theorem rtpFields_of_cc_zero (hcc : rtp.cc = 0#4) :
    rtpFields f rtp data = .ok (plainMedia f rtp data) := by
  simp only [rtpFields, hcc, csrcLoop_zero]
  simp [plainMedia, createSrppMessage, SRPPMessage.new, hcc, bind, Except.bind, pure, Except.pure]

/-- The message it sends. -/
def sentMedia : SRPPMessage :=
  sealSrpp (withPadding (plainMedia f rtp data) padding (BitVec.ofNat 32 padding.length)) key draw

theorem rtpToSrpp_of_cc_zero (hcc : rtp.cc = 0#4) :
    rtpToSrpp f rtp data padding key draw = .ok (sentMedia f rtp data padding key draw) := by
  simp [rtpToSrpp, rtpFields_of_cc_zero f rtp data hcc, sentMedia, bind, Except.bind, pure,
    Except.pure]

theorem sentMedia_payload :
    (sentMedia f rtp data padding key draw).encryptedPart.originalPayload =
      data.map (· ^^^ key.setWidth 8) := rfl

theorem sentMedia_payload_length :
    (sentMedia f rtp data padding key draw).encryptedPart.originalPayload.length = data.length := by
  simp [sentMedia_payload]

theorem sentMedia_dummyFlag :
    (sentMedia f rtp data padding key draw).encryptedPart.dummyFlag = key.setWidth 15 := by
  simp [sentMedia, sealSrpp, withPadding, encryptSrpp, SRPPMessage.encrypt, xorPart]

section Nonnegative
variable (hk : key.toNat < 2 ^ 31) (hpad : padding.length ≤ 1500)
include hk

theorem sentMedia_wirePad :
    wirePad (sentMedia f rtp data padding key draw) key = BitVec.ofNat 32 padding.length :=
  maskPadCount_xor _ _ hk

include hpad

theorem sentMedia_wirePad_toNat :
    (wirePad (sentMedia f rtp data padding key draw) key).toNat = padding.length := by
  rw [sentMedia_wirePad f rtp data padding key draw hk, BitVec.toNat_ofNat]
  exact Nat.mod_eq_of_lt (by omega)

theorem sentMedia_padded :
    Padded (sentMedia f rtp data padding key draw) key ↔ 0 < padding.length := by
  rw [Padded, sentMedia_wirePad_toNat f rtp data padding key draw hk hpad]
  exact and_iff_left rfl

/-- The size announced to the receiver ends exactly at the end of the trailer. -/
theorem srppSize_sentMedia :
    srppSize (sentMedia f rtp data padding key draw) =
      trailerAt (sentMedia f rtp data padding key draw) key + 12 := by
  have hp : (sentMedia f rtp data padding key draw).encryptedPart.srppPadding.length =
      padding.length := by
    simp [sentMedia, sealSrpp, withPadding, encryptSrpp, SRPPMessage.encrypt, xorPart]
  have hc := sentMedia_padded f rtp data padding key draw hk hpad
  rw [srppSize, hp, trailerAt, sizeofSRPPHeader]
  by_cases h0 : 0 < padding.length
  · rw [if_pos (hc.mpr h0), sentMedia_wirePad_toNat f rtp data padding key draw hk hpad]
  · rw [if_neg (mt hc.mp h0)]
    omega

end Nonnegative

end Sender

/-- A G.711 packet header, as an endpoint sends it. -/
def voiceHeader : RTPHeader :=
  { cc := 0, x := 0, p := 0, version := 2, pt := 0, m := 0, seq := 0x0100, ts := 0xa0000000
    ssrc := 0x01020304, csrc := fun _ => 0 }

/-- A constructed object, at the start of the process. -/
def freshMessage : SRPPMessage :=
  SRPPMessage.new { seq := 10001, ts := 0, ssrc := 19, signalling := 0 }

section RoundTrip
variable {rtp : RTPHeader} {padding : List Byte} {key : BitVec 32}
variable (f : Fresh) (data : List Byte) (draw : ℕ) (buff : Mem) (filler : Fin 15 → BitVec 32)
variable (obj : SRPPMessage)

section Receiver
variable {f data draw buff} {wire : Mem}

/-- The decoder on the datagram of a media message, wherever it has been copied. -/
theorem networkToSrpp_sentMedia (hcc : rtp.cc = 0#4) (hk : key.toNat < 2 ^ 31)
    (hpad : padding.length ≤ 1500) (hi : IsWire (sentMedia f rtp data padding key draw) key buff wire) :
    ∃ csrc, networkToSrpp obj wire (srppSize (sentMedia f rtp data padding key draw)) key =
      .ok (0, decoded (sentMedia f rtp data padding key draw) obj key csrc wire) := by
  rw [srppSize_sentMedia f rtp data padding key draw hk hpad]
  exact networkToSrpp_isWire obj hi hcc
    ((sentMedia_wirePad_toNat f rtp data padding key draw hk hpad).trans_le hpad)

variable (csrc : Csrc)

theorem decrypt_decoded_metadata :
    SameMetadata (decryptSrpp (decoded (sentMedia f rtp data padding key draw) obj key csrc wire) key)
      (plainMedia f rtp data) := by
  constructor <;> try rfl
  · exact xor_xor_cancel _ _
  · exact xor_xor_cancel _ _

theorem decrypt_decoded_dummyFlag :
    (decryptSrpp (decoded (sentMedia f rtp data padding key draw) obj key csrc wire)
      key).encryptedPart.dummyFlag = 0 := by
  simp [decryptSrpp, SRPPMessage.decrypt, xorPart, decoded, sentMedia_dummyFlag]

end Receiver

/-- The receiver's message, up to contributing sources nobody reads. -/
theorem mediaRoundTrip_eq (hcc : rtp.cc = 0#4) (hk : key.toNat < 2 ^ 31)
    (hpad : padding.length ≤ 1500) :
    ∃ wire csrc, IsWire (sentMedia f rtp data padding key draw) key buff wire ∧
      mediaRoundTrip f rtp data padding key draw buff filler obj =
        .ok (0, decryptSrpp
          (decoded (sentMedia f rtp data padding key draw) obj key csrc wire) key) := by
  obtain ⟨wire, hw, hi⟩ := srppToNetwork_isWire (sentMedia f rtp data padding key draw) buff filler
    key hcc
  rcases networkToSrpp_sentMedia obj hcc hk hpad hi with ⟨csrc, hd⟩
  refine ⟨wire, csrc, hi, ?_⟩
  simp only [mediaRoundTrip, rtpToSrpp_of_cc_zero _ _ _ _ _ _ hcc, hw, hd, bind, Except.bind, pure,
    Except.pure]

/-- Metadata and framing: the datagram is accepted, every metadata field is the
sender's, so that the RTP header arrives, the message is not a dummy, and a padded one has the
sender's length. -/
theorem metadata_roundTrip (hcc : rtp.cc = 0#4) (hk : key.toNat < 2 ^ 31)
    (hpad : padding.length ≤ 1500) :
    ∃ plain received, rtpFields f rtp data = .ok plain ∧
      mediaRoundTrip f rtp data padding key draw buff filler obj = .ok (0, received) ∧
      SameMetadata received plain ∧ CarriesHeader rtp received ∧
      received.encryptedPart.dummyFlag = 0 ∧
      (1 ≤ padding.length → received.encryptedPart.originalPayload.length = data.length) := by
  obtain ⟨wire, csrc, hi, hr⟩ := mediaRoundTrip_eq f data draw buff filler obj hcc hk hpad
  have hsame : SameMetadata
      (decryptSrpp (decoded (sentMedia f rtp data padding key draw) obj key csrc wire) key)
      (plainMedia f rtp data) := decrypt_decoded_metadata obj csrc
  refine ⟨_, _, rtpFields_of_cc_zero f rtp data hcc, hr, hsame,
    hsame.carriesHeader (plainMedia_carriesHeader f rtp data), decrypt_decoded_dummyFlag obj csrc, ?_⟩
  intro h1
  have hp := (sentMedia_padded f rtp data padding key draw hk hpad).mpr h1
  simp [decryptSrpp, SRPPMessage.decrypt, xorPart, decoded, hp, sentMedia_payload_length]

theorem unpad_payload (msg : SRPPMessage) :
    (unpad msg).2.encryptedPart.originalPayload = msg.encryptedPart.originalPayload := by
  unfold unpad
  split_ifs <;> rfl

/-- A padded payload is decoded from the C string copy of its ciphertext. -/
theorem mediaRoundTrip_payload (hcc : rtp.cc = 0#4) (hk : key.toNat < 2 ^ 31)
    (h1 : 1 ≤ padding.length) (hpad : padding.length ≤ 1500) :
    ∃ received, mediaRoundTrip f rtp data padding key draw buff filler obj = .ok (0, received) ∧
      received.encryptedPart.originalPayload =
        ((buff.strcpy 80 (data.map (· ^^^ key.setWidth 8))).read 80 data.length).map
          (· ^^^ key.setWidth 8) := by
  obtain ⟨wire, csrc, hi, hr⟩ := mediaRoundTrip_eq f data draw buff filler obj hcc hk hpad
  refine ⟨_, hr, ?_⟩
  have hp := (sentMedia_padded f rtp data padding key draw hk hpad).mpr h1
  have hag := hi.payload
  rw [sentMedia_payload_length, sentMedia_payload] at hag
  simp only [decryptSrpp, SRPPMessage.decrypt, xorPart, decoded, if_pos hp, add_zero,
    sentMedia_payload_length]
  rw [hag.read le_rfl le_rfl]

/-- The payload reaches the receiver out of every buffer exactly when no byte
before the last one equals the low byte of the key. -/
theorem payload_roundTrip_iff (hcc : rtp.cc = 0#4) (hk : key.toNat < 2 ^ 31)
    (h1 : 1 ≤ padding.length) (hpad : padding.length ≤ 1500) :
    (∀ buff, ∃ received,
      mediaRoundTrip f rtp data padding key draw buff filler obj = .ok (0, received) ∧
      (unpad received).2.encryptedPart.originalPayload = data) ↔
    ∀ b ∈ data.dropLast, b ≠ key.setWidth 8 := by
  have hbuff (buff : Mem) : (∃ received,
      mediaRoundTrip f rtp data padding key draw buff filler obj = .ok (0, received) ∧
      (unpad received).2.encryptedPart.originalPayload = data) ↔
      (buff.strcpy 80 (data.map (· ^^^ key.setWidth 8))).read 80
        (data.map (· ^^^ key.setWidth 8)).length = data.map (· ^^^ key.setWidth 8) := by
    obtain ⟨received, hr, hp⟩ :=
      mediaRoundTrip_payload f data draw buff filler obj hcc hk h1 hpad
    rw [List.length_map]
    constructor
    · rintro ⟨received', hr', hd⟩
      obtain rfl : received = received' := by
        rw [hr] at hr'
        exact (Prod.mk.inj (Except.ok.inj hr')).2
      rw [unpad_payload, hp] at hd
      simpa only [map_xor_xor] using congrArg (List.map (· ^^^ key.setWidth 8)) hd
    · intro hs
      exact ⟨received, hr, by rw [unpad_payload, hp, hs, map_xor_xor]⟩
  simp only [hbuff]
  rw [strcpy_read_eq_iff, ← List.map_dropLast]
  -- a ciphertext byte is NUL exactly when the plain byte is the key byte
  simp only [List.mem_map, not_exists, not_and]
  refine forall₂_congr fun b _ => not_congr ?_
  rw [BitVec.xor_eq_zero_iff]

end RoundTrip

theorem metadata_roundTrip_voice :
    ∃ plain received,
      rtpFields ⟨10001, 0, 19, 0⟩ voiceHeader [0#8, 7#8] = .ok plain ∧
      mediaRoundTrip ⟨10001, 0, 19, 0⟩ voiceHeader [0#8, 7#8] [0#8] 65 5 (fun _ => 0)
        (fun _ => 0) freshMessage = .ok (0, received) ∧
      SameMetadata received plain ∧ CarriesHeader voiceHeader received ∧
      received.encryptedPart.dummyFlag = 0 ∧
      (1 ≤ [0#8].length → received.encryptedPart.originalPayload.length = [0#8, 7#8].length) :=
  metadata_roundTrip _ _ _ _ _ _ rfl (by decide) (by decide)

/-- Two bytes of text under a key that is the first of them: the ciphertext
starts with NUL and the second byte is taken from the buffer. -/
theorem payload_lost_at_key_byte :
    voiceHeader.cc = 0#4 ∧ (65 : BitVec 32).toNat < 2 ^ 31 ∧
    ¬∃ received,
      mediaRoundTrip ⟨10001, 0, 19, 0⟩ voiceHeader [65#8, 66#8] [1#8] 65 0 (fun _ => 0)
        (fun _ => 0) freshMessage = .ok (0, received) ∧
      (unpad received).2.encryptedPart.originalPayload = [65#8, 66#8] := by
  refine ⟨rfl, by decide, ?_⟩
  rintro ⟨received, hr, hp⟩
  have hs := @mediaRoundTrip_payload voiceHeader [1#8] 65 ⟨10001, 0, 19, 0⟩ [65#8, 66#8] 0
    (fun _ => 0) (fun _ => 0) freshMessage rfl (by decide) (by decide) (by decide)
  rcases hs with ⟨received', hr', hp'⟩
  rw [hr] at hr'
  obtain rfl := (Prod.mk.inj (Except.ok.inj hr')).2
  rw [unpad_payload, hp'] at hp
  revert hp
  decide

theorem payload_roundTrip_iff_voice :
    (∀ buff, ∃ received,
      mediaRoundTrip ⟨10001, 0, 19, 0⟩ voiceHeader [65#8, 66#8] [1#8] 7 0 buff (fun _ => 0)
        freshMessage = .ok (0, received) ∧
      (unpad received).2.encryptedPart.originalPayload = [65#8, 66#8]) ↔
    ∀ b ∈ [65#8, 66#8].dropLast, b ≠ (7 : BitVec 32).setWidth 8 :=
  payload_roundTrip_iff _ _ _ _ _ rfl (by decide) (by decide) (by decide)

end Sqrkal.Message
