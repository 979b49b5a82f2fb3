import Sqrkal.Message.RoundTrip

/-! # The RTP header an application gets back

In RTP mode the sender takes the header apart and the receiver rebuilds it. The
first two octets survive. The sequence number, the timestamp and the source are
brought into host order once too often, so the receiver writes their bytes in
reverse.
-/

namespace Sqrkal.Message
open Foundation Mem

/-- The outbound conversion of `process_packet` for a given outcome of `pad`. -/
def convertOutbound (isSrtp : Bool) (f : Fresh) (buff : Mem) (bytesRead : ℤ) (padding : List Byte)
    (key : BitVec 32) (draw : ℕ) (srppBuff : Mem) (filler : Fin 15 → BitVec 32) :
    Except Fault (Mem × ℤ) := do
  let data ← outboundPayload isSrtp buff bytesRead
  let msg ← rtpToSrpp f (RTPHeader.load buff 28) data padding key draw
  placeOutbound msg buff key srppBuff filler

/-- A packet sent in RTP mode and converted back at the receiver, whose buffer holds
`junk` outside the datagram. -/
def relayRtp (f : Fresh) (buff : Mem) (bytesRead : ℤ) (padding : List Byte) (key : BitVec 32)
    (draw : ℕ) (srppBuff : Mem) (filler : Fin 15 → BitVec 32) (obj : SRPPMessage) (junk : Mem)
    (new : RTPMessage) (rtpBuff : Mem) : Except Fault Mem := do
  let (sent, size) ← convertOutbound false f buff bytesRead padding key draw srppBuff filler
  let arrived := junk.write 28 (sent.read 28 (size - 28).toNat)
  let (_, out, _) ← convertInboundRtp obj arrived size key new rtpBuff
  return out

section Sender
variable {f : Fresh} {buff : Mem} {bytesRead : ℤ} {padding : List Byte} {key : BitVec 32} {draw : ℕ}

/-- The datagram of an outbound RTP packet, as it stands at the start of the UDP payload. -/
theorem convertOutbound_isWire (srppBuff : Mem) (filler : Fin 15 → BitVec 32)
    (hcc : (RTPHeader.load buff 28).cc = 0#4) (h40 : 40 ≤ bytesRead) :
    ∃ data sent wire, convertOutbound false f buff bytesRead padding key draw srppBuff filler =
        .ok (buff.write 28 (wire.read 0 (srppSize sent).toNat), srppSize sent + 28) ∧
      sent = sentMedia f (RTPHeader.load buff 28) data padding key draw ∧
      IsWire sent key srppBuff wire := by
  have hd : outboundPayload false buff bytesRead = .ok (buff.read 40 (bytesRead - 40).toNat) := by
    simp [outboundPayload, not_lt.mpr h40]
  obtain ⟨wire, hw, hi⟩ := srppToNetwork_isWire
    (sentMedia f (RTPHeader.load buff 28) (buff.read 40 (bytesRead - 40).toNat) padding key draw)
    srppBuff filler key hcc
  refine ⟨_, _, wire, ?_, rfl, hi⟩
  simp only [convertOutbound, hd, rtpToSrpp_of_cc_zero _ _ _ _ _ _ hcc, placeOutbound, hw, bind,
    Except.bind, pure, Except.pure]

end Sender

/-- The header `srpp_to_rtp` fills in for a received media message. -/
theorem srppToRtp_media {received plain : SRPPMessage} {key : BitVec 32} (new : RTPMessage)
    (hm : SameMetadata (decryptSrpp received key) plain)
    (hd : (decryptSrpp received key).encryptedPart.dummyFlag = 0)
    (hcc : plain.srppHeader.cc = 0#4) :
    ∃ out msg, srppToRtp received key new = .ok (out, msg) ∧
      out.rtpHeader.octet0 = plain.srppHeader.version ++ plain.encryptedPart.originalPaddingBit ++
        plain.srppHeader.x ++ plain.srppHeader.cc ∧
      out.rtpHeader.octet1 = plain.srppHeader.m ++ plain.srppHeader.pt ∧
      out.rtpHeader.seq = plain.encryptedPart.originalSeqNumber ∧
      out.rtpHeader.ts = plain.srppHeader.ts ∧ out.rtpHeader.ssrc = plain.srppHeader.ssrc ∧
      out.rtpHeader.cc = 0#4 := by
  have hu : unpad (decryptSrpp received key) = (1, { decryptSrpp received key with
      encryptedPart := { (decryptSrpp received key).encryptedPart with
        srppPadding := [], padCount := 0 } }) := by
    unfold unpad
    rw [if_neg (by rw [hd]; decide)]
  simp only [srppToRtp, hu, hm.cc, hcc, csrcLoop_zero, bind, Except.bind, pure, Except.pure]
  refine ⟨_, _, rfl, ?_⟩
  simp [RTPHeader.octet0, RTPHeader.octet1, hm.version, hm.paddingBit, hm.x, hm.m, hm.pt,
    hm.seqNumber, hm.ts, hm.ssrc]

/-- The twelve bytes an RTP header occupies without contributing sources. -/
def RTPHeader.fixedBytes (h : RTPHeader) : List Byte :=
  [h.octet0, h.octet1] ++ le16 h.seq ++ le32 h.ts ++ le32 h.ssrc

theorem RTPHeader.store_read_fixed (h : RTPHeader) (mem : Mem) :
    (h.store mem 0).read 0 12 = h.fixedBytes := by
  have hw : h.store mem 0 = (mem.write 0 h.fixedBytes).storeWords 12 (List.ofFn h.csrc) := by
    rw [fixedBytes, write_append, write_append, write_append]
    rw [show [h.octet0, h.octet1] = [h.octet0] ++ [h.octet1] from rfl, write_append]
    rfl
  have hag : AgreesOn (h.store mem 0) (mem.write 0 h.fixedBytes) 0 12 := by
    rw [hw]
    exact storeWords_agreesOn (Or.inl le_rfl)
  rw [hag.read le_rfl le_rfl]
  exact read_write_self mem 0 h.fixedBytes

/-- The first bytes `rtp_to_network` writes are the header in host order. -/
theorem rtpToNetwork_read_fixed (msg : RTPMessage) (buff : Mem) (length : ℤ)
    (hcc : msg.rtpHeader.cc = 0#4) :
    (rtpToNetwork msg buff length).read 0 12 = msg.rtpHeader.fixedBytes := by
  have hs : rtpHeaderSize msg.rtpHeader.cc = 12 := by
    rw [hcc]
    rfl
  rw [rtpToNetwork, hs, read_write_of_disjoint (Or.inl (by norm_num)), RTPHeader.store_read_fixed]

/-- Sequence number, timestamp and source each read the same from both ends. -/
def Palindromic (buff : Mem) : Prop :=
  buff 30 = buff 31 ∧ (buff 32 = buff 35 ∧ buff 33 = buff 34) ∧ buff 36 = buff 39 ∧ buff 37 = buff 38

instance (buff : Mem) : Decidable (Palindromic buff) := inferInstanceAs (Decidable (_ ∧ _))

/-- The header the receiver writes for the packet in `buff`. -/
theorem fixedBytes_swapped {buff : Mem} {h : RTPHeader}
    (h0 : h.octet0 = (RTPHeader.load buff 28).octet0)
    (h1 : h.octet1 = (RTPHeader.load buff 28).octet1)
    (hseq : h.seq = htons (RTPHeader.load buff 28).seq)
    (hts : h.ts = htonl (RTPHeader.load buff 28).ts)
    (hssrc : h.ssrc = htonl (RTPHeader.load buff 28).ssrc) :
    h.fixedBytes = [buff 28, buff 29, buff 31, buff 30, buff 35, buff 34, buff 33, buff 32,
      buff 39, buff 38, buff 37, buff 36] := by
  rw [RTPHeader.fixedBytes, h0, h1, hseq, hts, hssrc, RTPHeader.octet0_load, RTPHeader.octet1_load]
  simp [RTPHeader.load, load16, load32, htons_pair, htonl_quad, le16, le32]

theorem read_twelve_eq_iff (buff : Mem) :
    [buff 28, buff 29, buff 31, buff 30, buff 35, buff 34, buff 33, buff 32, buff 39, buff 38,
      buff 37, buff 36] = buff.read 28 12 ↔ Palindromic buff := by
  have hr : buff.read 28 12 = [buff 28, buff 29, buff 30, buff 31, buff 32, buff 33, buff 34,
      buff 35, buff 36, buff 37, buff 38, buff 39] := rfl
  simp only [hr, List.cons.injEq, Palindromic, true_and, and_true]
  constructor
  · rintro ⟨-, h31, -, -, h33, h32, -, -, h37, h36⟩
    exact ⟨h31, ⟨h32.symm ▸ rfl, h33.symm ▸ rfl⟩, h36.symm ▸ rfl, h37.symm ▸ rfl⟩
  · rintro ⟨h31, ⟨h32, h33⟩, h36, h37⟩
    simp [h31, h32, h33, h36, h37]

section Relay
variable {f : Fresh} {buff : Mem} {bytesRead : ℤ} {padding : List Byte} {key : BitVec 32}
variable (draw : ℕ) (srppBuff : Mem) (filler : Fin 15 → BitVec 32) (obj : SRPPMessage) (junk : Mem)
variable (new : RTPMessage) (rtpBuff : Mem)

/-- The datagram as the receiver's decoder finds it. -/
theorem arrived_isWire {msg : SRPPMessage} {mem wire : Mem} (hi : IsWire msg key mem wire)
    (hs : srppSize msg = trailerAt msg key + 12) :
    IsWire msg key mem ((junk.write 28 ((buff.write 28 (wire.read 0 (srppSize msg).toNat)).read 28
      (srppSize msg).toNat)).shift 28) := by
  have hge := trailerAt_ge msg key
  rw [read_write_read _ _ _ le_rfl, write_shift]
  refine hi.congr ((write_read_agreesOn _ _ _).symm.mono le_rfl ?_)
  omega

/-- Whatever the packet, its header comes out with three fields reversed. -/
theorem relayRtp_read (hcc : (RTPHeader.load buff 28).cc = 0#4) (h40 : 40 ≤ bytesRead)
    (hk : key.toNat < 2 ^ 31) (hpad : padding.length ≤ 1500) :
    ∃ out, relayRtp f buff bytesRead padding key draw srppBuff filler obj junk new rtpBuff = .ok out ∧
      out.read 28 12 = [buff 28, buff 29, buff 31, buff 30, buff 35, buff 34, buff 33, buff 32,
        buff 39, buff 38, buff 37, buff 36] := by
  obtain ⟨data, sent, wire, ho, rfl, hi⟩ :=
    @convertOutbound_isWire f buff bytesRead padding key draw srppBuff filler hcc h40
  have hw := @arrived_isWire buff key junk _ _ _ hi
    (srppSize_sentMedia f (RTPHeader.load buff 28) data padding key draw hk hpad)
  rcases networkToSrpp_sentMedia obj hcc hk hpad hw with ⟨csrc, hd⟩
  generalize hdec : decoded _ obj key csrc _ = received at hd
  have hm : SameMetadata (decryptSrpp received key) (plainMedia f (RTPHeader.load buff 28) data) :=
    hdec ▸ decrypt_decoded_metadata obj csrc
  obtain ⟨rtp, msg, hr, h0, h1, hseq, hts, hssrc, hc⟩ := srppToRtp_media new hm
    (hdec ▸ decrypt_decoded_dummyFlag obj csrc) hcc
  simp only [relayRtp, ho, convertInboundRtp, add_sub_cancel_right, hd, hr, bind, Except.bind, pure,
    Except.pure, le_refl, if_true]
  refine ⟨_, rfl, ?_⟩
  have hs : rtpHeaderSize rtp.rtpHeader.cc = 12 := by
    rw [hc]
    rfl
  rw [read_write_read _ _ _ (by omega), rtpToNetwork_read_fixed _ _ _ hc]
  exact fixedBytes_swapped h0 h1 hseq hts hssrc

/-- The receiving application gets the twelve header bytes of the sender back
exactly when sequence number, timestamp and source are palindromic. -/
theorem relayRtp_header_iff (hcc : (RTPHeader.load buff 28).cc = 0#4) (h40 : 40 ≤ bytesRead)
    (hk : key.toNat < 2 ^ 31) (hpad : padding.length ≤ 1500) :
    (∃ out, relayRtp f buff bytesRead padding key draw srppBuff filler obj junk new rtpBuff =
        .ok out ∧ out.read 28 12 = buff.read 28 12) ↔ Palindromic buff := by
  obtain ⟨out, hr, hread⟩ := @relayRtp_read f buff bytesRead padding key draw srppBuff filler obj
    junk new rtpBuff hcc h40 hk hpad
  rw [← read_twelve_eq_iff, ← hread]
  constructor
  · rintro ⟨out', hr', h⟩
    rw [hr] at hr'
    rwa [Except.ok.inj hr']
  · intro h
    exact ⟨out, hr, h⟩

end Relay

/-- A captured packet: IP and UDP headers, then `80 00`, sequence number 1,
timestamp 160, source `01020304`, and two payload bytes. -/
def voicePacket : Mem :=
  Mem.write (fun _ => 0#8) 28
    [0x80#8, 0#8, 0#8, 1#8, 0#8, 0#8, 0#8, 160#8, 1#8, 2#8, 3#8, 4#8, 9#8, 9#8]

/-- An RTP message object before its first use. -/
def freshRtp : RTPMessage := RTPMessage.new 1 (fun _ => 0) (fun _ => 0)

theorem relayRtp_header_reversed :
    (RTPHeader.load voicePacket 28).cc = 0#4 ∧
    ¬∃ out, relayRtp ⟨10001, 0, 19, 0⟩ voicePacket 42 [1#8] 65 0 (fun _ => 0) (fun _ => 0)
        freshMessage (fun _ => 0) freshRtp (fun _ => 0) = .ok out ∧
      out.read 28 12 = voicePacket.read 28 12 := by
  refine ⟨by decide, ?_⟩
  rintro ⟨out, hr, h⟩
  obtain ⟨out', hr', hread⟩ := @relayRtp_read ⟨10001, 0, 19, 0⟩ voicePacket 42 [1#8] 65 0
    (fun _ => 0) (fun _ => 0) freshMessage (fun _ => 0) freshRtp (fun _ => 0) (by decide)
    (by decide) (by decide) (by decide)
  rw [hr] at hr'
  rw [← Except.ok.inj hr', h] at hread
  revert hread
  decide

theorem relayRtp_header_iff_voice :
    (∃ out, relayRtp ⟨10001, 0, 19, 0⟩ voicePacket 42 [1#8] 65 0 (fun _ => 0) (fun _ => 0)
        freshMessage (fun _ => 0) freshRtp (fun _ => 0) = .ok out ∧
      out.read 28 12 = voicePacket.read 28 12) ↔ Palindromic voicePacket :=
  relayRtp_header_iff _ _ _ _ _ _ _ (by decide) (by decide) (by decide) (by decide)

end Sqrkal.Message
