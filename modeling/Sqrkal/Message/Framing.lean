import Sqrkal.Message.Conversion

/-! # What the encoder puts where, and what the decoder finds there

One specification of the encoder, `IsWire`, and one equation for the decoder on
any memory that satisfies it. Every round trip below goes through these two.
-/

namespace Sqrkal.Message
open Foundation Mem

section Layout
variable (msg : SRPPMessage) (key : BitVec 32)

/-- The pad count of the wire after decryption, which both directions test. -/
def wirePad : BitVec 32 :=
  maskPadCount msg.encryptedPart.padCount key msg.srppHeader.srppSignalling

/-- Both directions leave room for padding under this condition. -/
abbrev Padded : Prop := 0 < (wirePad msg key).toNat ∧ msg.srppHeader.srppSignalling = 0

/-- The offset of the trailer: after the payload and, for a padded media
message, as many bytes as the decrypted pad count says. -/
def trailerAt : ℤ :=
  80 + msg.encryptedPart.originalPayload.length +
    if Padded msg key then ((wirePad msg key).toNat : ℤ) else 0

theorem trailerAt_ge : 80 + (msg.encryptedPart.originalPayload.length : ℤ) ≤ trailerAt msg key := by
  unfold trailerAt
  split_ifs <;> omega

end Layout

/-- A memory that holds the datagram of `msg`, encoded over the buffer `mem`. -/
structure IsWire (msg : SRPPMessage) (key : BitVec 32) (mem wire : Mem) : Prop where
  header : ∃ csrc, SRPPHeader.load wire 0 = msg.srppHeader.toWire csrc
  padCount : wire.load32 (trailerAt msg key) = msg.encryptedPart.padCount
  flags : wire.load16 (trailerAt msg key + 4) =
    msg.encryptedPart.originalPaddingBit ++ msg.encryptedPart.dummyFlag
  seqNumber : wire.load16 (trailerAt msg key + 6) = msg.encryptedPart.originalSeqNumber
  tag : wire.load32 (trailerAt msg key + 8) = htonl msg.authenticationTag
  payload : AgreesOn wire (mem.strcpy 80 msg.encryptedPart.originalPayload) 80
    (80 + msg.encryptedPart.originalPayload.length)

theorem IsWire.congr {msg : SRPPMessage} {key : BitVec 32} {mem wire wire' : Mem}
    (h : IsWire msg key mem wire) (ha : AgreesOn wire wire' 0 (trailerAt msg key + 12)) :
    IsWire msg key mem wire' := by
  have hge := trailerAt_ge msg key
  rcases h.header with ⟨csrc, hh⟩
  exact
    { header := ⟨csrc, by rw [← hh, SRPPHeader.load_congr (ha.mono (by omega) (by omega))]⟩
      padCount := by rw [← h.padCount, ha.load32 (by omega) (by omega)]
      flags := by rw [← h.flags, ha.load16 (by omega) (by omega)]
      seqNumber := by rw [← h.seqNumber, ha.load16 (by omega) (by omega)]
      tag := by rw [← h.tag, ha.load32 (by omega) (by omega)]
      payload := (ha.mono (by omega) (by omega)).symm.trans h.payload }

section Trailer
variable (mem : Mem) (a : ℤ) (e : SRPPEncrypted) (tag : BitVec 32)

theorem storeTrailer_padCount : (storeTrailer mem a e tag).load32 a = e.padCount := by
  rw [storeTrailer, store32, load32_write_of_disjoint (by omega), store16,
    load32_write_of_disjoint (by omega), store16, load32_write_of_disjoint (by omega),
    load32_store32]

theorem storeTrailer_flags :
    (storeTrailer mem a e tag).load16 (a + 4) = e.originalPaddingBit ++ e.dummyFlag := by
  rw [storeTrailer, store32, load16_write_of_disjoint (by omega), store16,
    load16_write_of_disjoint (by omega), load16_store16]

theorem storeTrailer_seqNumber :
    (storeTrailer mem a e tag).load16 (a + 6) = e.originalSeqNumber := by
  rw [storeTrailer, store32, load16_write_of_disjoint (by omega), load16_store16]

theorem storeTrailer_tag : (storeTrailer mem a e tag).load32 (a + 8) = htonl tag := by
  rw [storeTrailer, load32_store32]

theorem storeTrailer_agreesOn {lo hi : ℤ} (h : hi ≤ a) :
    AgreesOn (storeTrailer mem a e tag) mem lo hi := by
  unfold storeTrailer
  exact (store32_agreesOn _ _ _ (by omega)).trans ((store16_agreesOn _ _ _ (by omega)).trans
    ((store16_agreesOn _ _ _ (by omega)).trans (store32_agreesOn _ _ _ (by omega))))

end Trailer

section Body
variable (mem : Mem) (msg : SRPPMessage) (key : BitVec 32)

theorem storeBody_snd :
    (storeBody mem msg.encryptedPart key msg.srppHeader.srppSignalling).2 = trailerAt msg key := by
  change (if Padded msg key then _ else _ : Mem × ℤ).2 = _
  rw [trailerAt]
  by_cases hc : Padded msg key
  · rw [if_pos hc, if_pos hc]
    rfl
  · rw [if_neg hc, if_neg hc, add_zero]
    rfl

theorem storeBody_agreesOn_payload {lo hi : ℤ}
    (h : hi ≤ 80 + msg.encryptedPart.originalPayload.length) :
    AgreesOn (storeBody mem msg.encryptedPart key msg.srppHeader.srppSignalling).1
      (mem.strcpy 80 msg.encryptedPart.originalPayload) lo hi := by
  simp only [storeBody, sizeofSRPPHeader]
  split_ifs
  · exact strcpy_agreesOn (Or.inl h)
  · exact AgreesOn.refl

theorem storeBody_agreesOn_header {lo : ℤ} :
    AgreesOn (storeBody mem msg.encryptedPart key msg.srppHeader.srppSignalling).1 mem lo 80 :=
  (storeBody_agreesOn_payload mem msg key (by omega)).trans (strcpy_agreesOn (Or.inl le_rfl))

end Body

@[simp] theorem csrcBound_zero : csrcBound 0#4 = 0 := rfl

theorem csrcLoop_zero (f : BitVec 32 → BitVec 32) (src dst : Csrc) :
    csrcLoop 0#4 f src dst = .ok dst := by
  simp [csrcLoop]

/-- Copying into an overwritten header changes nothing the C string copy leaves behind. -/
theorem strcpy_store_agreesOn (h : SRPPHeader) (mem : Mem) (s : List Byte) {hi : ℤ} :
    AgreesOn ((h.store mem 0).strcpy 80 s) (mem.strcpy 80 s) 80 hi := by
  intro a ha hb
  have hag : AgreesOn (h.store mem 0) mem 80 (a + 1) := h.store_agreesOn (Or.inr (by omega))
  simp only [strcpy, write]
  split_ifs
  · rfl
  · exact hag a ha (by omega)

/-- The encoder on a message without contributing sources. -/
theorem srppToNetwork_isWire (msg : SRPPMessage) (mem : Mem) (filler : Fin 15 → BitVec 32)
    (key : BitVec 32) (hcc : msg.srppHeader.cc = 0#4) :
    ∃ wire, srppToNetwork msg mem filler key = .ok wire ∧ IsWire msg key mem wire := by
  have hge := trailerAt_ge msg key
  simp only [srppToNetwork, wireCsrc, hcc, csrcLoop_zero, bind, Except.bind, pure, Except.pure,
    storeBody_snd]
  refine ⟨_, rfl, ⟨⟨fun i => filler i * 34 + 1, ?_⟩, storeTrailer_padCount .., storeTrailer_flags ..,
    storeTrailer_seqNumber .., storeTrailer_tag .., ?_⟩⟩
  · rw [SRPPHeader.load_congr (storeTrailer_agreesOn _ _ _ _ (by omega)),
      SRPPHeader.load_congr (storeBody_agreesOn_header _ msg key), SRPPHeader.load_store]
  · exact (storeTrailer_agreesOn _ _ _ _ (by omega)).trans
      ((storeBody_agreesOn_payload _ msg key le_rfl).trans (strcpy_store_agreesOn _ _ _))

theorem takePayload_eq (msg : SRPPMessage) (mem : Mem) (padCount : BitVec 32) (n : ℕ) :
    takePayload msg mem (80 + n) padCount =
      .ok (0, { msg with
        encryptedPart :=
          { msg.encryptedPart with padCount := padCount, originalPayload := mem.read 80 n } }) := by
  simp [takePayload, sizeofSRPPHeader]

section Decoder
variable (msg obj : SRPPMessage) (key : BitVec 32)

/-- The object `obj` after decoding the datagram of `msg`. Without padding the
payload runs on to the tag and takes in the eight bytes of the trailer. -/
def decoded (csrc : Csrc) (wire : Mem) : SRPPMessage :=
  { srppHeader := { msg.srppHeader with csrc := csrc }
    encryptedPart :=
      { msg.encryptedPart with
        srppPadding := obj.encryptedPart.srppPadding
        padCount := if Padded msg key then wirePad msg key ^^^ key else 0
        originalPayload := wire.read 80
          (msg.encryptedPart.originalPayload.length + if Padded msg key then 0 else 8) }
    authenticationTag := msg.authenticationTag }

theorem ofWire_toWire (h : SRPPHeader) (csrc : Csrc) (hcc : h.cc = 0#4) :
    (h.toWire csrc).ofWire = { h with csrc := csrc } := by
  simp [SRPPHeader.toWire, SRPPHeader.ofWire, hcc]

theorem flags_dummyFlag (b : BitVec 1) (d : BitVec 15) : (b ++ d).extractLsb' 0 15 = d := by
  ext i hi
  simp only [BitVec.getElem_extractLsb', BitVec.getLsbD_append]
  grind

theorem flags_paddingBit (b : BitVec 1) (d : BitVec 15) : (b ++ d).extractLsb' 15 1 = b := by
  ext i hi
  simp only [BitVec.getElem_extractLsb', BitVec.getLsbD_append]
  grind

variable {msg key} {mem wire : Mem}

/-- What the decoder has found before it looks at the pad count. -/
theorem readTrailer_isWire (h : IsWire msg key mem wire) (hcc : msg.srppHeader.cc = 0#4) :
    ∃ csrc, readTrailer obj wire (trailerAt msg key + 12) key =
      { srppHeader := { msg.srppHeader with csrc := csrc }
        encryptedPart :=
          { msg.encryptedPart with
            originalPayload := obj.encryptedPart.originalPayload
            srppPadding := obj.encryptedPart.srppPadding
            padCount := wirePad msg key }
        authenticationTag := msg.authenticationTag } := by
  rcases h.header with ⟨csrc, hh⟩
  refine ⟨csrc, ?_⟩
  have h12 : trailerAt msg key + 12 - 12 = trailerAt msg key := by omega
  have h8 : trailerAt msg key + 12 - 8 = trailerAt msg key + 4 := by omega
  have h6 : trailerAt msg key + 12 - 6 = trailerAt msg key + 6 := by omega
  have h4 : trailerAt msg key + 12 - 4 = trailerAt msg key + 8 := by omega
  simp only [readTrailer, hh, ofWire_toWire _ _ hcc, h12, h8, h6, h4, h.padCount, h.flags,
    h.seqNumber, h.tag, flags_dummyFlag, flags_paddingBit, htonl_htonl, wirePad]

/-- The decoder accepts every datagram of an acceptable pad count. -/
theorem networkToSrpp_isWire (h : IsWire msg key mem wire) (hcc : msg.srppHeader.cc = 0#4)
    (hpad : (wirePad msg key).toNat ≤ 1500) :
    ∃ csrc, networkToSrpp obj wire (trailerAt msg key + 12) key =
      .ok (0, decoded msg obj key csrc wire) := by
  rcases readTrailer_isWire obj h hcc with ⟨csrc, hr⟩
  refine ⟨csrc, ?_⟩
  simp only [networkToSrpp, hr]
  rw [if_neg (by omega)]
  by_cases hc : Padded msg key
  · have hl : trailerAt msg key + 12 - 12 - ((wirePad msg key).toNat : ℤ) =
        80 + msg.encryptedPart.originalPayload.length := by
      rw [trailerAt, if_pos hc]
      omega
    rw [if_pos hc, hl, takePayload_eq]
    simp only [decoded, if_pos hc, add_zero]
  · have hl : trailerAt msg key + 12 - 4 =
        80 + ((msg.encryptedPart.originalPayload.length + 8 : ℕ) : ℤ) := by
      rw [trailerAt, if_neg hc]
      push_cast
      omega
    rw [if_neg hc, hl, takePayload_eq]
    simp only [decoded, if_neg hc]

end Decoder

end Sqrkal.Message
