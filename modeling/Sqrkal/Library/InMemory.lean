import Sqrkal.Library.CacheInvariants
import Sqrkal.Library.PadLimits

/-! # Conversion in memory

Between `rtp_to_srpp` on a message object and `srpp_to_rtp` there is no wire format, so
nothing depends on zero bytes or on the sign of the key: every field goes through the same
exclusive or twice.
-/

namespace Sqrkal.Library
open Foundation Mem Message

/-- The header fields that the two conversions carry over. -/
structure SameHeader (a b : RTPHeader) : Prop where
  version : a.version = b.version
  p : a.p = b.p
  cc : a.cc = b.cc
  x : a.x = b.x
  m : a.m = b.m
  seq : a.seq = b.seq
  pt : a.pt = b.pt
  ts : a.ts = b.ts
  ssrc : a.ssrc = b.ssrc

/-- What `rtp_to_srpp(RTPMessage*)` has to keep of a message until it is encrypted. -/
structure Carries (m : RTPMessage) (msg : SRPPMessage) : Prop where
  header : SameHeader
    { msg.srppHeader.toRTPHeader with
      p := msg.encryptedPart.originalPaddingBit, seq := msg.encryptedPart.originalSeqNumber }
    m.rtpHeader
  payload : msg.encryptedPart.originalPayload = m.payloadText
  signalling : msg.srppHeader.srppSignalling = 0

/-! ## The payload string -/

section Text
variable {m : RTPMessage}

theorem nul_notMem_payloadText (m : RTPMessage) : 0#8 ∉ m.payloadText := by
  intro h
  have := List.mem_takeWhile_imp h
  simp at this

/-- The text ends before the first NUL of the array. -/
theorem payloadText_length {k : ℕ} (hk : (k : ℤ) < maxPayloadSize) (h : m.payload k = 0#8) :
    (m.payloadText.length : ℤ) < maxPayloadSize := by
  have hle := cstr_length_le (m.payload.read 0 maxPayloadSize.toNat)
  rw [read_length] at hle
  rcases hle.lt_or_eq with hlt | heq
  · unfold RTPMessage.payloadText
    omega
  · -- all bytes of the array would be different from NUL
    have hall : m.payloadText = m.payload.read 0 maxPayloadSize.toNat :=
      (List.takeWhile_prefix _).eq_of_length (by rw [read_length]; exact heq)
    have hlen : k < (m.payload.read 0 maxPayloadSize.toNat).length := by
      rw [read_length]
      omega
    have hget := read_getElem m.payload 0 maxPayloadSize.toNat k hlen
    rw [zero_add, h] at hget
    exact absurd (hall ▸ hget ▸ List.getElem_mem hlen) (nul_notMem_payloadText m)

/-- A short text that is put into a message is its payload string. -/
theorem createRtpMessage_payloadText (new : RTPMessage) {data : List Byte} (hnul : 0#8 ∉ data)
    (hlen : (data.length : ℤ) < maxPayloadSize) : (createRtpMessage new data).payloadText = data := by
  have hsplit : maxPayloadSize.toNat = data.length + (1 + (maxPayloadSize.toNat - data.length - 1)) := by
    omega
  have hread : (createRtpMessage new data).payload.read 0 data.length = data := by
    change (write (new.payload.write 0 data) data.length [0#8]).read 0 data.length = data
    rw [read_write_of_disjoint (Or.inl (by omega)), read_write_self]
  have hend : (createRtpMessage new data).payload.read (0 + data.length) 1 = [0#8] := by
    change (write (new.payload.write 0 data) data.length [0#8]).read (0 + data.length) 1 = [0#8]
    rw [zero_add]
    exact read_write_self _ _ [0#8]
  unfold RTPMessage.payloadText
  rw [hsplit, read_add, hread, read_add, hend, cstr]
  rw [List.takeWhile_append_of_pos fun b hb => ?_]
  · simp
  · simpa using fun h0 : b = 0#8 => hnul (h0 ▸ hb)

end Text

/-! ## There and back -/

section Conversion
variable {env : Env} {m : RTPMessage}

theorem rtpMessageFields_carries (f : Fresh) (hcc : m.rtpHeader.cc = 0#4) :
    ∃ msg, rtpMessageFields f m = .ok msg ∧ Carries m msg ∧ msg.encryptedPart.dummyFlag = 0 := by
  simp only [rtpMessageFields, hcc, csrcLoop_zero]
  exact ⟨_, rfl, ⟨⟨rfl, rfl, hcc.symm, rfl, rfl, rfl, rfl, rfl, rfl⟩, rfl, rfl⟩, rfl⟩

/-- Decryption gives back what was sealed, and no dummy. -/
theorem decrypt_sealSrpp_carries {msg : SRPPMessage} (h : Carries m msg) (padding : List Byte)
    (count key : BitVec 32) (draw : ℕ) :
    Carries m (decryptSrpp (sealSrpp (withPadding msg padding count) key draw) key) ∧
      (decryptSrpp (sealSrpp (withPadding msg padding count) key draw) key).encryptedPart.dummyFlag = 0 := by
  refine ⟨⟨⟨h.header.version, ?_, h.header.cc, h.header.x, h.header.m, ?_, h.header.pt, h.header.ts,
    h.header.ssrc⟩, ?_, h.signalling⟩, ?_⟩
  · exact (xor_xor_cancel _ _).trans h.header.p
  · exact (xor_xor_cancel _ _).trans h.header.seq
  · exact (decrypt_sealSrpp msg padding count key draw).1.trans h.payload
  · change ((0 &&& _) ^^^ key.setWidth 15 ^^^ key.setWidth 15) &&& 1 = (0 : BitVec 15)
    rw [xor_xor_cancel]
    simp

/-- `srpp_to_rtp` on a message that is no dummy. -/
theorem srppToRtp_carries {msg : SRPPMessage} {key : BitVec 32} (h : Carries m (decryptSrpp msg key))
    (hd : (decryptSrpp msg key).encryptedPart.dummyFlag = 0) (hcc : m.rtpHeader.cc = 0#4)
    (hlen : (m.payloadText.length : ℤ) < maxPayloadSize) (new : RTPMessage) :
    (unpad (decryptSrpp msg key)).1 = 1 ∧ ∃ out msg', srppToRtp msg key new = .ok (out, msg') ∧
      SameHeader out.rtpHeader m.rtpHeader ∧ out.payloadText = m.payloadText := by
  have hu : unpad (decryptSrpp msg key) = (1, { decryptSrpp msg key with
      encryptedPart := { (decryptSrpp msg key).encryptedPart with srppPadding := [], padCount := 0 } }) := by
    unfold unpad
    rw [if_neg (by rw [hd]; decide)]
  have hzero : (decryptSrpp msg key).srppHeader.cc = 0#4 := h.header.cc.trans hcc
  refine ⟨by rw [hu], ?_⟩
  simp only [srppToRtp, hu, hzero, csrcLoop_zero, bind, Except.bind, pure, Except.pure]
  refine ⟨_, _, rfl, ⟨h.header.version, h.header.p, hcc.symm, h.header.x, h.header.m, h.header.seq,
    h.header.pt, h.header.ts, h.header.ssrc⟩, ?_⟩
  have htext := createRtpMessage_payloadText new (nul_notMem_payloadText m) hlen
  rw [← h.payload] at htext
  exact htext.trans h.payload

/-- In a state whose drawable entries have payload, `rtp_to_srpp` returns. -/
theorem rtpMessageToSrppOp_run {l : Lib} (hcc : m.rtpHeader.cc = 0#4)
    (hcache : ∀ i : Fin 100, (i : ℕ) < 99 → HasPayload (l.padding.dummyCache i)) :
    ∃ msg padding count draw l', Carries m msg ∧ l'.session = l.session ∧
      (rtpMessageToSrppOp env m).run l =
        .ok (sealSrpp (withPadding msg padding count) l.session.encryptionKey draw, l') := by
  rcases rtpMessageFields_carries (l.fresh env) hcc with ⟨msg, hfields, hcarries, -⟩
  rcases pad_run env l.constructed msg hcarries.signalling (hcarries.header.cc.trans hcc) with
    ⟨extra, l₁, mem, i, hi, -, hpad⟩
  obtain ⟨padding, hpadding⟩ := dummyBytes_ok mem (List.length_pos_iff.mpr (hcache i hi)).ne' extra
  have hcached : dummyBytes mem
      (l.constructed.padding.dummyCache i).encryptedPart.originalPayload.length extra = .ok padding :=
    hpadding
  rw [hcached] at hpad
  rcases hpad with ⟨l₂, hrun, -, hsession⟩
  rw [rtpMessageToSrppOp, run_bind_ok (nextFresh_run l env), run_bind_ok (run_lift_ok hfields _),
    run_bind_ok hrun, run_bind_ok (rawRand_run l₂ env), run_get_bind]
  refine ⟨msg, padding, BitVec.ofInt 32 extra, env.rand l₂.tick, l₂.ticked, hcarries, hsession, ?_⟩
  have hkey : l₂.ticked.session.encryptionKey = l.session.encryptionKey :=
    congrArg Session.encryptionKey hsession
  rw [hkey]
  rfl

/-- After `init_SRPP` and any padding operations, in every mode and under every key, a
message without contributing sources is converted, is no dummy, and comes back with the
same header fields and the same payload string. -/
theorem conversion_roundTrip {l₀ : Lib} {s : Drawn} (hmax : 0 < l₀.maxpacketsize)
    (hs : AfterInit env keepsPayload l₀ s) (hcc : m.rtpHeader.cc = 0#4) {k : ℕ}
    (hk : (k : ℤ) < maxPayloadSize) (hnul : m.payload k = 0#8) :
    ∃ msg l', (rtpMessageToSrppOp env m).run s.lib = .ok (msg, l') ∧
      l'.session.encryptionKey = l₀.session.encryptionKey ∧
      ∀ new, (unpad (decryptSrpp msg l'.session.encryptionKey)).1 = 1 ∧
        ∃ out msg', srppToRtp msg l'.session.encryptionKey new = .ok (out, msg') ∧
          SameHeader out.rtpHeader m.rtpHeader ∧ out.payloadText = m.payloadText := by
  obtain ⟨msg, padding, count, draw, l', hcarries, hsession, hrun⟩ :=
    rtpMessageToSrppOp_run hcc (hs.hasPayload hmax)
  have hkey : l'.session.encryptionKey = s.lib.session.encryptionKey :=
    congrArg Session.encryptionKey hsession
  refine ⟨_, l', hrun, ?_, fun new => ?_⟩
  · rw [hkey, hs.session]
  · rcases decrypt_sealSrpp_carries hcarries padding count s.lib.session.encryptionKey draw with
      ⟨hback, hdummy⟩
    rw [hkey]
    exact srppToRtp_carries hback hdummy hcc (payloadText_length hk hnul) new

end Conversion

/-- A message with the text "hi", for a session with a negative key. -/
def shortMessage : RTPMessage where
  rtpHeader := voiceHeader
  payload a := if a = 0 then 104 else if a = 1 then 105 else 0

theorem conversion_roundTrip_short : ∃ s,
    AfterInit (Env.constant 0) keepsPayload
      { Lib.start (Env.constant 0) with session := { encryptionKey := 0x80000068 } } s ∧
      ∃ msg l', (rtpMessageToSrppOp (Env.constant 0) shortMessage).run s.lib = .ok (msg, l') ∧
        l'.session.encryptionKey = 0x80000068 ∧
        ∀ new, ∃ out msg', srppToRtp msg l'.session.encryptionKey new = .ok (out, msg') ∧
          out.payloadText = text "hi" := by
  have hcheck : callsEnd (Env.constant 0) keepsPayload
      { Lib.start (Env.constant 0) with session := { encryptionKey := 0x80000068 } } []
      (fun _ => true) = true := by decide +kernel
  have htext : shortMessage.payloadText = text "hi" := by decide +kernel
  rcases callsEnd_afterInit hcheck with ⟨s, hs, -⟩
  obtain ⟨msg, l', hrun, hkey, hback⟩ := conversion_roundTrip (m := shortMessage) (k := 2) (by decide)
    hs rfl (by decide) rfl
  refine ⟨s, hs, msg, l', hrun, hkey, fun new => ?_⟩
  rcases (hback new).2 with ⟨out, msg', hout, -, hsame⟩
  exact ⟨out, msg', hout, hsame.trans htext⟩

end Sqrkal.Library
