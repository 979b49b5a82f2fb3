import Sqrkal.Message.Transparency

/-! # The encoding of a media packet as it arrives

The bytes that one packet leaves on the wire, whatever random draws and whatever buffer went into
them, and what both inbound conversions make of these bytes in another buffer.
-/

namespace Sqrkal.Message
open Foundation Mem

/-! ## The encoded packet -/

/-- Some bytes are the encoding of a media packet with some padding, whatever the draws and the
scratch buffer. -/
def IsEncoded (key : BitVec 32) (rtp : RTPHeader) (data padding bytes : List Byte) : Prop :=
  ∃ f draw mem wire, IsWire (sentMedia f rtp data padding key draw) key mem wire ∧
    bytes = wire.read 0 (srppSize (sentMedia f rtp data padding key draw)).toNat

/-- Where the part of a packet starts that is encrypted. -/
def mediaStart (isSrtp : Bool) : ℕ := if isSrtp then 28 else 40

theorem mediaStart_bounds (isSrtp : Bool) : 28 ≤ mediaStart isSrtp ∧ mediaStart isSrtp ≤ 40 := by
  cases isSrtp <;> decide

theorem outboundPayload_read {isSrtp : Bool} {buff : Mem} {n : ℤ} {data : List Byte}
    (h : outboundPayload isSrtp buff n = .ok data) :
    data = buff.read (mediaStart isSrtp) data.length ∧ n = mediaStart isSrtp + data.length := by
  unfold outboundPayload at h
  unfold mediaStart
  dsimp only at h
  cases isSrtp with
  | false =>
    simp only [Bool.false_eq_true, if_false] at h ⊢
    split_ifs at h
    cases h
    rw [read_length]
    exact ⟨rfl, by push_cast; omega⟩
  | true =>
    simp only [if_true] at h ⊢
    split_ifs at h
    cases h
    rw [read_length]
    exact ⟨rfl, by push_cast; omega⟩

/-- No byte but the last is the byte of the key, so the C string copy takes all of them. -/
def IsClean (key : BitVec 32) (data : List Byte) : Prop := ∀ b ∈ data.dropLast, b ≠ key.setWidth 8

instance (key : BitVec 32) (data : List Byte) : Decidable (IsClean key data) :=
  inferInstanceAs (Decidable (∀ _ ∈ _, _))

/-- An RTP header with sequence number, timestamp and source turned around. -/
def turnedHeader (m : Mem) : List Byte :=
  [m 28, m 29, m 31, m 30, m 35, m 34, m 33, m 32, m 39, m 38, m 37, m 36]

section Encoded
variable {key : BitVec 32} {rtp : RTPHeader} {data padding bytes : List Byte}

theorem sentMedia_size (f : Fresh) (draw : ℕ) :
    srppSize (sentMedia f rtp data padding key draw) = 92 + data.length + padding.length := by
  have hp : (sentMedia f rtp data padding key draw).encryptedPart.srppPadding.length =
      padding.length := by
    simp [sentMedia, sealSrpp, withPadding, encryptSrpp, SRPPMessage.encrypt, xorPart]
  rw [srppSize, hp, sentMedia_payload_length, sizeofSRPPHeader]
  omega

theorem IsEncoded.length (h : IsEncoded key rtp data padding bytes) :
    bytes.length = 92 + data.length + padding.length := by
  rcases h with ⟨f, draw, mem, wire, -, rfl⟩
  rw [read_length, sentMedia_size]
  omega

/-- What a decoder with the same key finds in the encoding. -/
structure Decodes (key : BitVec 32) (rtp : RTPHeader) (data : List Byte) (received : SRPPMessage) :
    Prop where
  metadata : ∃ f, SameMetadata (decryptSrpp received key) (plainMedia f rtp data)
  media : (decryptSrpp received key).encryptedPart.dummyFlag = 0
  length : (decryptSrpp received key).encryptedPart.originalPayload.length = data.length
  payload : IsClean key data → (decryptSrpp received key).encryptedPart.originalPayload = data

section Received
variable {mem : Mem} (h : IsEncoded key rtp data padding bytes)
  (hmem : mem.read 0 bytes.length = bytes) (hk : key.toNat < 2 ^ 31) (hpad : padding.length ≤ 1500)
include h hmem hk hpad

/-- A memory that begins with the encoding is as good as the buffer of the sender. -/
theorem IsEncoded.isWire :
    ∃ f draw scratch, IsWire (sentMedia f rtp data padding key draw) key scratch mem := by
  rcases h with ⟨f, draw, scratch, wire, hwire, rfl⟩
  refine ⟨f, draw, scratch, hwire.congr ?_⟩
  rw [← srppSize_sentMedia f rtp data padding key draw hk hpad]
  rw [read_length, read_eq_read_iff] at hmem
  intro a ha hlt
  have hbyte := hmem a.toNat (by omega)
  rw [zero_add, Int.toNat_of_nonneg ha] at hbyte
  exact hbyte.symm

/-- A decoder with the same key accepts padded media, and finds what the sender put in. -/
theorem IsEncoded.decodes (hcc : rtp.cc = 0#4) (hpadded : 1 ≤ padding.length) (obj : SRPPMessage) :
    ∃ received, networkToSrpp obj mem bytes.length key = .ok (0, received) ∧
      Decodes key rtp data received := by
  have hlength := h.length
  obtain ⟨f, draw, scratch, hwire⟩ := h.isWire hmem hk hpad
  rcases networkToSrpp_sentMedia obj hcc hk hpad hwire with ⟨csrc, hdecoded⟩
  rw [sentMedia_size, show (92 : ℤ) + data.length + padding.length = bytes.length by omega] at hdecoded
  have hp := (sentMedia_padded f rtp data padding key draw hk hpad).mpr hpadded
  have hpayload : (decryptSrpp (decoded (sentMedia f rtp data padding key draw) obj key csrc mem)
      key).encryptedPart.originalPayload = (mem.read 80 data.length).map (· ^^^ key.setWidth 8) := by
    simp only [decryptSrpp, SRPPMessage.decrypt, xorPart, decoded, if_pos hp, add_zero,
      sentMedia_payload_length]
  refine ⟨_, hdecoded, ⟨f, decrypt_decoded_metadata obj csrc⟩, decrypt_decoded_dummyFlag obj csrc, ?_,
    fun hclean => ?_⟩
  · rw [hpayload, List.length_map, read_length]
  · -- a byte of the ciphertext ends the copy exactly if the plain byte is the byte of the key
    have hcopied : 0#8 ∉ (data.map (· ^^^ key.setWidth 8)).dropLast := by
      rw [← List.map_dropLast, List.mem_map]
      rintro ⟨b, hb, hzero⟩
      exact hclean b hb (BitVec.xor_eq_zero_iff.mp hzero)
    have hpart := hwire.payload
    rw [sentMedia_payload_length, sentMedia_payload] at hpart
    have hread := (strcpy_read_eq_iff 80 _).mpr hcopied scratch
    rw [List.length_map] at hread
    rw [hpayload, hpart.read le_rfl le_rfl, hread, map_xor_xor]

end Received

end Encoded

/-! ## The conversion back -/

/-- A buffer with its length holds some media again behind the headers. -/
structure Restores (isSrtp : Bool) (key : BitVec 32) (buff : Mem) (data : List Byte) (r : Mem × ℤ) :
    Prop where
  length : r.2 = mediaStart isSrtp + data.length
  media : IsClean key data → r.1.read (mediaStart isSrtp) data.length = data
  header : isSrtp = false → r.1.read 28 12 = turnedHeader buff

section Conversion
variable {key : BitVec 32} {rtp : RTPHeader} {arrived : Mem} {data : List Byte} {n : ℤ}
  {obj received : SRPPMessage} (hd : Decodes key rtp data received)
include hd

theorem Decodes.unpad : unpad (decryptSrpp received key) = (1, { decryptSrpp received key with
    encryptedPart := { (decryptSrpp received key).encryptedPart with srppPadding := [], padCount := 0 } }) := by
  unfold Message.unpad
  rw [if_neg (by rw [hd.media]; decide)]

theorem Decodes.received_length : received.encryptedPart.originalPayload.length = data.length := by
  rw [← hd.length]
  simp [decryptSrpp, SRPPMessage.decrypt, xorPart]

/-- The payload goes into the array of the RTP message as it is. -/
theorem Decodes.srppToRtp_payload {new out : RTPMessage} {msg : SRPPMessage}
    (h : srppToRtp received key new = .ok (out, msg)) :
    msg.encryptedPart.originalPayload.length = data.length ∧
      (IsClean key data → out.payload.read 0 data.length = data) := by
  simp only [srppToRtp, hd.unpad, bind, Except.bind, pure, Except.pure] at h
  split at h
  · cases h
  · cases h
    refine ⟨hd.length, fun hclean => ?_⟩
    have hframe : AgreesOn (createRtpMessage new data).payload (new.payload.write 0 data) 0
        data.length := write_agreesOn (.inl (by omega))
    rw [if_neg (by decide), hd.payload hclean, hframe.read le_rfl (by omega), read_write_self]

variable (hreceived : networkToSrpp obj (arrived.shift 28) (n - 28) key = .ok (0, received))
include hreceived

theorem convertInboundSrtp_restores (buff srtpBuff : Mem) : ∃ msg r,
    convertInboundSrtp obj arrived n key srtpBuff = .ok (msg, r) ∧ Restores true key buff data r := by
  have hlength := hd.received_length
  simp only [convertInboundSrtp, hreceived, srppToSrtp, hd.unpad, bind, Except.bind, pure, Except.pure,
    le_refl, if_true, hlength, show ¬((1 : ℤ) = -1) by decide, if_false]
  rw [← hd.length, List.take_length]
  refine ⟨_, _, rfl, ?_, fun hclean => ?_, fun h => absurd h (by decide)⟩
  · rw [hd.length, mediaStart]
    simp
    omega
  · dsimp only [mediaStart]
    rw [hd.payload hclean, if_pos rfl, Nat.cast_ofNat, read_write_read _ _ _ le_rfl, read_write_self]

theorem convertInboundRtp_restores {buff : Mem} (hrtp : rtp = RTPHeader.load buff 28) (hcc : rtp.cc = 0#4)
    (new : RTPMessage) (rtpBuff : Mem) : ∃ msg r,
    convertInboundRtp obj arrived n key new rtpBuff = .ok (msg, r) ∧ Restores false key buff data r := by
  rcases hd.metadata with ⟨f, hmeta⟩
  obtain ⟨out, msg, hconvert, h0, h1, hseq, hts, hssrc, hc⟩ := srppToRtp_media new hmeta hd.media hcc
  rcases hd.srppToRtp_payload hconvert with ⟨hlength, hpayload⟩
  have hsize : rtpHeaderSize out.rtpHeader.cc = 12 := by
    rw [hc]
    rfl
  have hnew : ((12 : ℤ) + data.length).toNat = 12 + data.length := by omega
  simp only [convertInboundRtp, hreceived, hconvert, hlength, hsize, hnew, bind, Except.bind, pure,
    Except.pure, le_refl, if_true]
  refine ⟨_, _, rfl, ?_, fun hclean => ?_, fun _ => ?_⟩
  · rw [mediaStart, if_neg (by decide)]
    dsimp only
    push_cast
    omega
  · -- the message is written whole, so the payload starts behind its twelve bytes
    have hwhole := read_write_read arrived (rtpToNetwork out rtpBuff (12 + data.length)) 28
      (le_refl (12 + data.length))
    dsimp only [mediaStart]
    rw [if_neg (by decide)]
    generalize arrived.write 28 ((rtpToNetwork out rtpBuff (12 + data.length)).read 0
      (12 + data.length)) = filled at hwhole ⊢
    rw [read_add, read_add] at hwhole
    have hpart := (List.append_inj' hwhole (by simp)).2
    refine hpart.trans ?_
    rw [rtpToNetwork, hsize, hnew]
    exact (read_write_read _ _ _ (by omega)).trans (hpayload hclean)
  · dsimp only
    rw [read_write_read _ _ _ (by omega), rtpToNetwork_read_fixed _ _ _ hc]
    exact fixedBytes_swapped (hrtp ▸ h0) (hrtp ▸ h1) (hrtp ▸ hseq) (hrtp ▸ hts) (hrtp ▸ hssrc)

end Conversion

/-- What the endpoint is given: as many bytes as its peer sent, with the media of the peer. -/
structure Restored (isSrtp : Bool) (key : BitVec 32) (buff : Mem) (data bytes : List Byte) : Prop where
  length : bytes.length = mediaStart isSrtp + data.length
  media : IsClean key data → bytes.drop (mediaStart isSrtp) = data
  header : isSrtp = false → (bytes.drop 28).take 12 = turnedHeader buff

theorem Restores.restored {isSrtp : Bool} {key : BitVec 32} {data : List Byte} {buff sent : Mem}
    {r : Mem × ℤ} (h : Restores isSrtp key buff data r) (hsent : ∀ hi, AgreesOn sent r.1 28 hi) :
    Restored isSrtp key buff data (sent.read 0 r.2.toNat) := by
  have hstart := (mediaStart_bounds isSrtp).1
  have hsize : r.2.toNat = mediaStart isSrtp + data.length := by
    rw [h.length]
    omega
  refine ⟨by rw [read_length, hsize], fun hclean => ?_, fun hs => ?_⟩
  · rw [hsize, read_add, List.drop_left' (read_length _ _ _), zero_add, (hsent _).read (by omega) le_rfl]
    exact h.media hclean
  · have hforty : mediaStart isSrtp = 28 + 12 := by rw [hs]; rfl
    rw [hsize, hforty, Nat.add_assoc, read_add, List.drop_left' (read_length _ _ _), read_add,
      List.take_left' (read_length _ _ _), zero_add, Nat.cast_ofNat, (hsent _).read le_rfl le_rfl]
    exact h.header hs

end Sqrkal.Message
