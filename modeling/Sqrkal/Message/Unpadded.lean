import Sqrkal.Message.RoundTrip

/-! # Messages without padding

Signalling messages, and media messages that were given no padding, are sent as
header, payload and trailer. The decoder then takes its pointer to the tag for
the end of the payload, so the first eight bytes of the trailer belong to it.
-/

namespace Sqrkal.Message
open Foundation Mem

/-- The key `send_message` and `processReceivedData` give to the codec in a session
with the given key. -/
def codecKey (msg : SRPPMessage) (key : BitVec 32) : BitVec 32 :=
  if isSignalingMessage msg = 1 then 0 else key

/-- `srpp_to_network` into a buffer for header, payload and trailer, and
`network_to_srpp` on these bytes in the receiver's memory. -/
def frameRoundTrip (msg : SRPPMessage) (key : BitVec 32) (buff : Mem)
    (filler : Fin 15 → BitVec 32) (obj : SRPPMessage) (memory : Mem) :
    Except Fault (ℤ × SRPPMessage) := do
  let wire ← srppToNetwork msg buff filler (codecKey msg key)
  let bytes := wire.read 0 (80 + msg.encryptedPart.originalPayload.length + 12)
  networkToSrpp obj (memory.around bytes) bytes.length (codecKey msg key)

/-- A message that carries no padding on the wire and whose payload is a C string. -/
inductive Unpadded (key : BitVec 32) : SRPPMessage → Prop where
  | signalling {msg : SRPPMessage} (pt : msg.srppHeader.pt = 124)
      (kind : msg.srppHeader.srppSignalling ≠ 0) (nul : 0#8 ∉ msg.encryptedPart.originalPayload) :
      Unpadded key msg
  | media {msg : SRPPMessage} (draw : ℕ) (kind : msg.srppHeader.srppSignalling = 0)
      (count : msg.encryptedPart.padCount = 0)
      (nul : 0#8 ∉ (encryptSrpp msg key draw).encryptedPart.originalPayload) :
      Unpadded key (encryptSrpp msg key draw)

section Unpadded
variable {key : BitVec 32} {msg : SRPPMessage}

theorem codecKey_media (h : msg.srppHeader.srppSignalling = 0) : codecKey msg key = key := by
  have hc : isSignalingMessage msg ≠ 1 := by
    simp only [isSignalingMessage, signalingClass, h]
    split_ifs <;> simp_all
  rw [codecKey, if_neg hc]

theorem Unpadded.nul_notMem (h : Unpadded key msg) :
    0#8 ∉ msg.encryptedPart.originalPayload := by
  cases h with
  | signalling _ _ nul => exact nul
  | media _ _ _ nul => exact nul

/-- Neither direction of the codec sees padding in it. -/
theorem Unpadded.not_padded (h : Unpadded key msg) (hk : key.toNat < 2 ^ 31) :
    ¬Padded msg (codecKey msg key) := by
  cases h with
  | signalling _ kind _ => exact fun hp => kind hp.2
  | @media msg draw kind count nul =>
    have hs : (encryptSrpp msg key draw).srppHeader.srppSignalling = 0 := kind
    have hp : (encryptSrpp msg key draw).encryptedPart.padCount = 0 ^^^ key := by
      rw [← count]
      rfl
    rintro ⟨hpos, -⟩
    rw [codecKey_media hs, wirePad, hs, hp, maskPadCount_xor _ _ hk] at hpos
    exact absurd hpos (by decide)

theorem Unpadded.trailerAt_eq (h : Unpadded key msg) (hk : key.toNat < 2 ^ 31) :
    trailerAt msg (codecKey msg key) = 80 + msg.encryptedPart.originalPayload.length := by
  rw [trailerAt, if_neg (h.not_padded hk), add_zero]

end Unpadded

theorem csrcBound_gt : ∀ cc : BitVec 4, cc ≠ 0#4 → 15 < csrcBound cc := by decide

/-- A header that counts contributing sources makes the encoder run past their array. -/
theorem srppToNetwork_sources {msg : SRPPMessage} (buff : Mem) (filler : Fin 15 → BitVec 32)
    (key : BitVec 32) (hcc : msg.srppHeader.cc ≠ 0#4) :
    srppToNetwork msg buff filler key = .error .outOfBounds := by
  have hb := csrcBound_gt _ hcc
  simp [srppToNetwork, wireCsrc, csrcLoop, Nat.not_le.mpr hb, bind, Except.bind]

section Receiver
variable {key : BitVec 32} {msg : SRPPMessage}
variable (buff : Mem) (filler : Fin 15 → BitVec 32) (obj : SRPPMessage) (memory : Mem)

/-- The receiver's decoder runs on a memory that holds the datagram. -/
theorem frameRoundTrip_eq (h : Unpadded key msg) (hk : key.toNat < 2 ^ 31)
    (hcc : msg.srppHeader.cc = 0#4) :
    ∃ wire, IsWire msg (codecKey msg key) buff wire ∧
      frameRoundTrip msg key buff filler obj memory =
        networkToSrpp obj wire (trailerAt msg (codecKey msg key) + 12) (codecKey msg key) := by
  rcases srppToNetwork_isWire msg buff filler (codecKey msg key) hcc with ⟨wire, hw, hi⟩
  have hend := h.trailerAt_eq hk
  refine ⟨memory.around (wire.read 0 (80 + msg.encryptedPart.originalPayload.length + 12)), ?_, ?_⟩
  · apply hi.congr
    rw [hend]
    apply AgreesOn.mono (write_read_agreesOn _ _ _).symm le_rfl
    push_cast
    exact le_rfl
  · simp only [frameRoundTrip, hw, bind, Except.bind, read_length, hend]
    push_cast
    rfl

/-- The payload is recovered with eight bytes of the trailer after it. -/
theorem frameRoundTrip_payload (h : Unpadded key msg) (hk : key.toNat < 2 ^ 31)
    (hcc : msg.srppHeader.cc = 0#4)
    (hpad : (wirePad msg (codecKey msg key)).toNat ≤ 1500) :
    ∃ received trailer, frameRoundTrip msg key buff filler obj memory = .ok (0, received) ∧
      received.encryptedPart.originalPayload = msg.encryptedPart.originalPayload ++ trailer ∧
      trailer.length = 8 := by
  rcases frameRoundTrip_eq buff filler obj memory h hk hcc with ⟨wire, hi, he⟩
  rcases networkToSrpp_isWire obj hi hcc hpad with ⟨csrc, hd⟩
  refine ⟨_, wire.read (80 + msg.encryptedPart.originalPayload.length) 8, he.trans hd, ?_,
    read_length ..⟩
  simp only [decoded, if_neg (h.not_padded hk)]
  rw [read_add, hi.payload.read le_rfl le_rfl, strcpy_read_of_no_nul _ _ h.nul_notMem]

/-- A pad count past the limit is refused. -/
theorem frameRoundTrip_refused (h : Unpadded key msg) (hk : key.toNat < 2 ^ 31)
    (hcc : msg.srppHeader.cc = 0#4)
    (hpad : 1500 < (wirePad msg (codecKey msg key)).toNat) :
    ∃ received, frameRoundTrip msg key buff filler obj memory = .ok (-1, received) := by
  rcases frameRoundTrip_eq buff filler obj memory h hk hcc with ⟨wire, hi, he⟩
  rcases readTrailer_isWire obj hi hcc with ⟨csrc, hr⟩
  have hd : networkToSrpp obj wire (trailerAt msg (codecKey msg key) + 12) (codecKey msg key) =
      .ok (-1, readTrailer obj wire (trailerAt msg (codecKey msg key) + 12) (codecKey msg key)) := by
    rw [networkToSrpp, if_pos]
    rw [hr]
    exact hpad
  exact ⟨_, he.trans hd⟩

/-- No unpadded message of any length comes back with the payload it was sent with. -/
theorem unpadded_payload_not_recovered (h : Unpadded key msg) (hk : key.toNat < 2 ^ 31) :
    ¬∃ received, frameRoundTrip msg key buff filler obj memory = .ok (0, received) ∧
      received.encryptedPart.originalPayload = msg.encryptedPart.originalPayload := by
  rintro ⟨received, hr, hp⟩
  by_cases hcc : msg.srppHeader.cc = 0#4
  · by_cases hpad : (wirePad msg (codecKey msg key)).toNat ≤ 1500
    · rcases frameRoundTrip_payload buff filler obj memory h hk hcc hpad with
        ⟨received', trailer, hr', hp', hl⟩
      rw [hr] at hr'
      cases hr'
      have hlen := congrArg List.length (hp'.symm.trans hp)
      rw [List.length_append] at hlen
      omega
    · rcases frameRoundTrip_refused buff filler obj memory h hk hcc (not_le.mp hpad) with
        ⟨received', hr'⟩
      rw [hr] at hr'
      cases hr'
  · rw [frameRoundTrip, srppToNetwork_sources buff filler _ hcc] at hr
    cases hr

end Receiver

/-- A signalling message of type 12 with a text of three letters. -/
def shortHello : SRPPMessage :=
  { createSrppMessage ⟨10001, 0, 19, 0⟩ [89#8, 69#8, 83#8] with
    srppHeader :=
      { (SRPPMessage.new ⟨10001, 0, 19, 0⟩).srppHeader with pt := 124, srppSignalling := 12 } }

theorem shortHello_unpadded : Unpadded 7 shortHello :=
  .signalling rfl (by decide) (by decide)

/-- The receiver takes the letters and eight zero bytes for the text. -/
theorem shortHello_gains_trailer :
    Unpadded 7 shortHello ∧
    ¬∃ received,
      frameRoundTrip shortHello 7 (fun _ => 1) (fun _ => 0) freshMessage (fun _ => 1) =
        .ok (0, received) ∧
      received.encryptedPart.originalPayload = shortHello.encryptedPart.originalPayload := by
  refine ⟨shortHello_unpadded, ?_⟩
  rintro ⟨received, hr, hp⟩
  have he : (frameRoundTrip shortHello 7 (fun _ => 1) (fun _ => 0) freshMessage
      (fun _ => 1)).toOption.map (fun r => r.2.encryptedPart.originalPayload) =
      some [89#8, 69#8, 83#8, 0#8, 0#8, 0#8, 0#8, 0#8, 0#8, 0#8, 0#8] := by
    decide +kernel
  rw [hr] at he
  simp only [Except.toOption, Option.map_some, hp] at he
  revert he
  decide

theorem unpadded_payload_not_recovered_hello :
    ¬∃ received,
      frameRoundTrip shortHello 7 (fun _ => 0) (fun _ => 0) freshMessage (fun _ => 0) =
        .ok (0, received) ∧
      received.encryptedPart.originalPayload = shortHello.encryptedPart.originalPayload :=
  unpadded_payload_not_recovered _ _ _ _ shortHello_unpadded (by decide)

end Sqrkal.Message
