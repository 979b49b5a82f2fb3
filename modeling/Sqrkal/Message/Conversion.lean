import Sqrkal.Message.Codec

/-! # Conversions between RTP, SRTP and SRPP packets

The library functions `rtp_to_srpp`, `srpp_to_rtp` and `srpp_to_srtp`, and the
two inbound conversions that `process_packet` performs in place on its buffer.
Random draws, the clock and uninitialised memory are arguments.
-/

namespace Sqrkal.Message
open Foundation Mem

/-- The class `RTPMessage`; its payload array is seen as memory. -/
structure RTPMessage where
  rtpHeader : RTPHeader
  payload : Mem

/-- `MAXPAYLOADSIZE`, the capacity of the payload array. -/
def maxPayloadSize : ℤ := 1464

/-- The constructor `RTPMessage()`, with the parts it leaves uninitialised. -/
def RTPMessage.new (seq : BitVec 16) (csrc : Csrc) (payload : Mem) : RTPMessage where
  rtpHeader :=
    { version := 2, p := 1, x := 0, cc := 15, m := 0, pt := 0, seq := seq, ts := 0, ssrc := 0
      csrc := csrc }
  payload := payload

/-- `create_rtp_message` on a constructed object: the text and a terminator, with
no check against the capacity of the array. -/
def createRtpMessage (new : RTPMessage) (data : List Byte) : RTPMessage :=
  { new with payload := (new.payload.write 0 data).write data.length [0#8] }

/-- `rtp_to_srpp(RTP_Header, char*, int)` up to the call of `pad`. The sequence
number is the one the constructor has just taken from the counter. -/
def rtpFields (f : Fresh) (rtp : RTPHeader) (data : List Byte) : Except Fault SRPPMessage := do
  let msg := createSrppMessage f data
  let csrc ← csrcLoop rtp.cc (fun c => (htons (c.setWidth 16)).setWidth 32) rtp.csrc
    msg.srppHeader.csrc
  return { msg with
    srppHeader :=
      { msg.srppHeader with
        version := rtp.version, cc := rtp.cc, x := rtp.x, m := rtp.m, pt := rtp.pt
        ts := htonl rtp.ts, ssrc := htonl rtp.ssrc, csrc := csrc, srppSignalling := 0
        seq := f.seq }
    encryptedPart :=
      { msg.encryptedPart with
        originalPaddingBit := rtp.p, originalSeqNumber := htons rtp.seq, dummyFlag := 0 } }

/-- The payload array as a C string. -/
def RTPMessage.payloadText (m : RTPMessage) : List Byte :=
  Mem.cstr (m.payload.read 0 maxPayloadSize.toNat)

/-- `rtp_to_srpp(RTPMessage*)` up to the call of `pad`. Here the header is taken as it is,
and the sequence number of the constructor stays. -/
def rtpMessageFields (f : Fresh) (m : RTPMessage) : Except Fault SRPPMessage := do
  let rtp := m.rtpHeader
  let msg := createSrppMessage f m.payloadText
  let csrc ← csrcLoop rtp.cc id rtp.csrc msg.srppHeader.csrc
  return { msg with
    srppHeader :=
      { msg.srppHeader with
        version := rtp.version, cc := rtp.cc, x := rtp.x, m := rtp.m, pt := rtp.pt
        ts := rtp.ts, ssrc := rtp.ssrc, csrc := csrc, srppSignalling := 0 }
    encryptedPart :=
      { msg.encryptedPart with
        originalPaddingBit := rtp.p, originalSeqNumber := rtp.seq, dummyFlag := 0 } }

/-- What `pad` leaves in the message it is called on. -/
def withPadding (msg : SRPPMessage) (padding : List Byte) (padCount : BitVec 32) : SRPPMessage :=
  { msg with
    encryptedPart :=
      { msg.encryptedPart with srppPadding := padding, padCount := padCount, dummyFlag := 0 } }

/-- The end of `rtp_to_srpp`: the pad count is set to the padding actually
present, and the message is encrypted. -/
def sealSrpp (msg : SRPPMessage) (key : BitVec 32) (draw : ℕ) : SRPPMessage :=
  encryptSrpp { msg with
    encryptedPart :=
      { msg.encryptedPart with padCount := BitVec.ofNat 32 msg.encryptedPart.srppPadding.length } }
    key draw

/-- `rtp_to_srpp` for a given outcome of `pad`. -/
def rtpToSrpp (f : Fresh) (rtp : RTPHeader) (data padding : List Byte) (key : BitVec 32)
    (draw : ℕ) : Except Fault SRPPMessage := do
  let msg ← rtpFields f rtp data
  return sealSrpp (withPadding msg padding (BitVec.ofNat 32 padding.length)) key draw

/-- `rtp_to_srpp(RTPMessage*)` for a given outcome of `pad`. -/
def rtpMessageToSrpp (f : Fresh) (m : RTPMessage) (padding : List Byte) (key : BitVec 32)
    (draw : ℕ) : Except Fault SRPPMessage := do
  let msg ← rtpMessageFields f m
  return sealSrpp (withPadding msg padding (BitVec.ofNat 32 padding.length)) key draw

/-- `srpp_to_rtp`: decrypt, unpad, and copy the header fields across. A dummy
becomes a message with an empty payload. -/
def srppToRtp (msg : SRPPMessage) (key : BitVec 32) (new : RTPMessage) :
    Except Fault (RTPMessage × SRPPMessage) := do
  let (status, msg) := unpad (decryptSrpp msg key)
  let rtp := createRtpMessage new (if status = -1 then [] else msg.encryptedPart.originalPayload)
  let csrc ← csrcLoop msg.srppHeader.cc id msg.srppHeader.csrc rtp.rtpHeader.csrc
  return ({ rtp with
    rtpHeader :=
      { version := msg.srppHeader.version, p := msg.encryptedPart.originalPaddingBit
        cc := msg.srppHeader.cc, x := msg.srppHeader.x, m := msg.srppHeader.m
        seq := msg.encryptedPart.originalSeqNumber, pt := msg.srppHeader.pt
        ts := msg.srppHeader.ts, ssrc := msg.srppHeader.ssrc, csrc := csrc } }, msg)

/-- `srpp_to_srtp(SRPPMessage*, char*, int)`: the status, the buffer and the message. -/
def srppToSrtp (msg : SRPPMessage) (key : BitVec 32) (buff : Mem) (length : ℕ) :
    ℤ × Mem × SRPPMessage :=
  let (status, msg) := unpad (decryptSrpp msg key)
  if status = -1 then (-1, buff, msg)
  else (0, buff.write 0 (msg.encryptedPart.originalPayload.take length), msg)

/-- The size of an RTP header with its contributing sources, as the program computes it. -/
def rtpHeaderSize (cc : BitVec 4) : ℤ := sizeofRTPHeader - 4 * (15 - csrcBound cc)

/-- `RTPMessage::rtp_to_network`: the header in host order, then `length` payload bytes. -/
def rtpToNetwork (msg : RTPMessage) (buff : Mem) (length : ℤ) : Mem :=
  (msg.rtpHeader.store buff 0).write (rtpHeaderSize msg.rtpHeader.cc)
    (msg.payload.read 0 length.toNat)

/-- The RTP branch of the inbound conversion in `process_packet`. A packet the
decoder rejects is left as it is. -/
def convertInboundRtp (msg : SRPPMessage) (buff : Mem) (bytesRead : ℤ) (key : BitVec 32)
    (new : RTPMessage) (rtpBuff : Mem) : Except Fault (SRPPMessage × Mem × ℤ) := do
  let (status, msg) ← networkToSrpp msg (buff.shift 28) (bytesRead - 28) key
  if 0 ≤ status then
    let (rtp, msg) ← srppToRtp msg key new
    let newSize := rtpHeaderSize rtp.rtpHeader.cc + msg.encryptedPart.originalPayload.length
    let rtpBuff := rtpToNetwork rtp rtpBuff newSize
    return (msg, buff.write 28 (rtpBuff.read 0 newSize.toNat), newSize + 28)
  else return (msg, buff, bytesRead)

/-- The SRTP branch: a dummy leaves the buffer and the length alone. -/
def convertInboundSrtp (msg : SRPPMessage) (buff : Mem) (bytesRead : ℤ) (key : BitVec 32)
    (srtpBuff : Mem) : Except Fault (SRPPMessage × Mem × ℤ) := do
  let (status, msg) ← networkToSrpp msg (buff.shift 28) (bytesRead - 28) key
  if 0 ≤ status then
    let newSize := msg.encryptedPart.originalPayload.length
    let (status, srtpBuff, msg) := srppToSrtp msg key srtpBuff newSize
    if 0 ≤ status then
      return (msg, buff.write 28 (srtpBuff.read 0 newSize), newSize + 28)
    else return (msg, buff, bytesRead)
  else return (msg, buff, bytesRead)

/-- The size of the SRPP datagram built for a message. -/
def srppSize (msg : SRPPMessage) : ℤ :=
  sizeofSRPPHeader + msg.encryptedPart.originalPayload.length +
    msg.encryptedPart.srppPadding.length + 12

theorem srppSize_ge (msg : SRPPMessage) : 92 ≤ srppSize msg := by
  unfold srppSize sizeofSRPPHeader
  omega

/-- The bytes of a packet that become the SRPP payload: what follows the RTP
header, or in SRTP mode the whole packet. A shorter packet makes the length
negative, and building the string throws. -/
def outboundPayload (isSrtp : Bool) (buff : Mem) (bytesRead : ℤ) : Except Fault (List Byte) :=
  let start : ℤ := if isSrtp then 28 else 40
  if bytesRead < start then .error .lengthError
  else .ok (buff.read start (bytesRead - start).toNat)

/-- The rest of the outbound conversion: encode into a scratch buffer and copy
the datagram over the packet. -/
def placeOutbound (msg : SRPPMessage) (buff : Mem) (key : BitVec 32) (srppBuff : Mem)
    (filler : Fin 15 → BitVec 32) : Except Fault (Mem × ℤ) := do
  let wire ← srppToNetwork msg srppBuff filler key
  return (buff.write 28 (wire.read 0 (srppSize msg).toNat), srppSize msg + 28)

theorem placeOutbound_ok {msg : SRPPMessage} {buff srppBuff buff' : Mem} {key : BitVec 32}
    {filler : Fin 15 → BitVec 32} {n : ℤ}
    (h : placeOutbound msg buff key srppBuff filler = .ok (buff', n)) : ∃ wire,
    srppToNetwork msg srppBuff filler key = .ok wire ∧
      buff' = buff.write 28 (wire.read 0 (srppSize msg).toNat) ∧ n = srppSize msg + 28 := by
  unfold placeOutbound at h
  cases hw : srppToNetwork msg srppBuff filler key with
  | error e =>
    rw [hw] at h
    cases h
  | ok wire =>
    rw [hw] at h
    cases h
    exact ⟨wire, rfl, rfl, rfl⟩

/-! ## What a conversion leaves alone -/

section Inbound
variable {msg msg' : SRPPMessage} {buff buff' : Mem} {n n' : ℤ} {key : BitVec 32}

theorem rtpHeaderSize_nonneg (cc : BitVec 4) : 0 ≤ rtpHeaderSize cc := by
  unfold rtpHeaderSize sizeofRTPHeader
  omega

theorem convertInboundRtp_frame {new : RTPMessage} {rtpBuff : Mem} (hn : 28 ≤ n)
    (h : convertInboundRtp msg buff n key new rtpBuff = .ok (msg', buff', n')) :
    AgreesOn buff' buff 0 28 ∧ 28 ≤ n' := by
  unfold convertInboundRtp at h
  cases hd : networkToSrpp msg (buff.shift 28) (n - 28) key with
  | error e =>
    rw [hd] at h
    cases h
  | ok r =>
    rw [hd] at h
    simp only [bind, Except.bind] at h
    split_ifs at h
    · cases hr : srppToRtp r.2 key new with
      | error e =>
        rw [hr] at h
        cases h
      | ok rtp =>
        rw [hr] at h
        cases h
        have hsize := rtpHeaderSize_nonneg rtp.1.rtpHeader.cc
        exact ⟨write_agreesOn (.inl le_rfl), by omega⟩
    · cases h
      exact ⟨.refl, hn⟩

theorem convertInboundSrtp_frame {srtpBuff : Mem} (hn : 28 ≤ n)
    (h : convertInboundSrtp msg buff n key srtpBuff = .ok (msg', buff', n')) :
    AgreesOn buff' buff 0 28 ∧ 28 ≤ n' := by
  unfold convertInboundSrtp at h
  cases hd : networkToSrpp msg (buff.shift 28) (n - 28) key with
  | error e =>
    rw [hd] at h
    cases h
  | ok r =>
    rw [hd] at h
    simp only [bind, Except.bind] at h
    split_ifs at h
    · cases h
      exact ⟨write_agreesOn (.inl le_rfl), by omega⟩
    · cases h
      exact ⟨.refl, hn⟩
    · cases h
      exact ⟨.refl, hn⟩

end Inbound

end Sqrkal.Message
