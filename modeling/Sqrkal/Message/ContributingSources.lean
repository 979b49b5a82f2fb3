import Sqrkal.Message.Unpadded

/-! # Contributing sources

Four of the five loops over contributing sources take `ntohs` of a four-bit count for
their bound. On a little-endian host that is 256 times the count, so with at least one
source each of them runs past the fifteen entries. Only the decoder's loop is bounded by
the count itself.
-/

namespace Sqrkal.Message
open Foundation Mem

/-- The entries touched by a loop with `ntohs(cc)` as its bound. -/
def swappedLoop (cc : BitVec 4) : List ℕ := List.range (csrcBound cc)

/-- The entries `srpp_to_network` touches: those of the message, then the ones it fills. -/
def encoderLoops (cc : BitVec 4) : List ℕ :=
  swappedLoop cc ++ List.range' (csrcBound cc) (15 - csrcBound cc)

/-- The entries `network_to_srpp` touches. -/
def decoderLoop (cc : BitVec 4) : List ℕ := List.range cc.toNat

/-- The entries touched by `rtp_to_srpp`, `srpp_to_network`, `network_to_srpp` and
`srpp_to_rtp` in turn, for one count. -/
def touchedSources (cc : BitVec 4) : List ℕ :=
  swappedLoop cc ++ encoderLoops cc ++ decoderLoop cc ++ swappedLoop cc

/-- A loop of the model returns exactly if it stays in the array. -/
theorem csrcLoop_ok_iff (cc : BitVec 4) (f : BitVec 32 → BitVec 32) (src dst : Csrc) :
    (∃ csrc, csrcLoop cc f src dst = .ok csrc) ↔ ∀ i ∈ swappedLoop cc, i < 15 := by
  unfold csrcLoop swappedLoop
  constructor
  · rintro ⟨csrc, h⟩ i hi
    split_ifs at h with hb
    exact lt_of_lt_of_le (List.mem_range.mp hi) hb
  · intro h
    have hb : csrcBound cc ≤ 15 := by
      by_contra hn
      exact absurd (h 15 (List.mem_range.mpr (by omega))) (by decide)
    exact ⟨_, if_pos hb⟩

theorem csrcLoop_sources {cc : BitVec 4} (hcc : cc ≠ 0#4) (f : BitVec 32 → BitVec 32)
    (src dst : Csrc) : csrcLoop cc f src dst = .error .outOfBounds :=
  if_neg (not_le.mpr (csrcBound_gt cc hcc))

/-- The count and the decoder's own loop are harmless. -/
theorem decoderLoop_lt (cc : BitVec 4) : ∀ i ∈ decoderLoop cc, i < 15 := by
  intro i hi
  have := List.mem_range.mp hi
  have := cc.isLt
  omega

/-- Every other loop reaches the first entry behind the array. -/
theorem swappedLoop_overruns {cc : BitVec 4} (hcc : cc ≠ 0#4) : 15 ∈ swappedLoop cc :=
  List.mem_range.mpr (csrcBound_gt cc hcc)

/-- A message on its way from `rtp_to_srpp` through the network to `srpp_to_rtp`. -/
def relayMessage (sent : Except Fault SRPPMessage) (key : BitVec 32) (buff : Mem)
    (filler : Fin 15 → BitVec 32) (obj : SRPPMessage) (new : RTPMessage) :
    Except Fault RTPMessage := do
  let msg ← sent
  let wire ← srppToNetwork msg buff filler key
  let (_, received) ← networkToSrpp obj wire (srppSize msg) key
  let (rtp, _) ← srppToRtp received key new
  return rtp

/-- All loops stay in the array, and the sources of the header arrive. -/
structure KeepsSources (rtp : RTPHeader) (result : Except Fault RTPMessage) : Prop where
  inside : ∀ i ∈ touchedSources rtp.cc, i < 15
  survive : ∃ out, result = .ok out ∧
    ∀ i : Fin 15, (i : ℕ) < rtp.cc.toNat → out.rtpHeader.csrc i = rtp.csrc i

section Sources
variable {f : Fresh} {m : RTPMessage} {data padding : List Byte} {key : BitVec 32} {draw : ℕ}

theorem rtpToSrpp_sources {rtp : RTPHeader} (hcc : rtp.cc ≠ 0#4) :
    rtpToSrpp f rtp data padding key draw = .error .outOfBounds := by
  simp only [rtpToSrpp, rtpFields, csrcLoop_sources hcc, bind, Except.bind]

theorem rtpMessageToSrpp_sources (hcc : m.rtpHeader.cc ≠ 0#4) :
    rtpMessageToSrpp f m padding key draw = .error .outOfBounds := by
  simp only [rtpMessageToSrpp, rtpMessageFields, csrcLoop_sources hcc, bind, Except.bind]

/-- Back at the receiver the same bound is used once more. -/
theorem srppToRtp_sources {msg : SRPPMessage} (hcc : msg.srppHeader.cc ≠ 0#4) (new : RTPMessage) :
    srppToRtp msg key new = .error .outOfBounds := by
  have hu : (unpad (decryptSrpp msg key)).2.srppHeader.cc ≠ 0#4 := by
    unfold unpad
    split_ifs
    · exact hcc
    · exact hcc
  simp only [srppToRtp, csrcLoop_sources hu, bind, Except.bind]

/-- With a contributing source no conversion keeps to the array: neither overload of
`rtp_to_srpp`, nor the encoder, nor the way back to RTP. -/
theorem sources_never_kept (buff : Mem) (filler : Fin 15 → BitVec 32) (obj : SRPPMessage)
    (new : RTPMessage) (hcc : m.rtpHeader.cc ≠ 0#4) :
    ¬KeepsSources m.rtpHeader (relayMessage (rtpToSrpp f m.rtpHeader data padding key draw) key
      buff filler obj new) ∧
    ¬KeepsSources m.rtpHeader (relayMessage (rtpMessageToSrpp f m padding key draw) key
      buff filler obj new) ∧
    15 ∈ swappedLoop m.rtpHeader.cc ∧
    (∀ msg : SRPPMessage, msg.srppHeader.cc = m.rtpHeader.cc →
      srppToNetwork msg buff filler key = .error .outOfBounds ∧
      srppToRtp msg key new = .error .outOfBounds) := by
  refine ⟨fun h => ?_, fun h => ?_, swappedLoop_overruns hcc, fun msg hmsg => ?_⟩
  · rcases h.survive with ⟨out, hout, -⟩
    rw [rtpToSrpp_sources hcc] at hout
    cases hout
  · rcases h.survive with ⟨out, hout, -⟩
    rw [rtpMessageToSrpp_sources hcc] at hout
    cases hout
  · have hsources : msg.srppHeader.cc ≠ 0#4 := by
      rw [hmsg]
      exact hcc
    exact ⟨srppToNetwork_sources buff filler key hsources, srppToRtp_sources hsources new⟩

end Sources

/-- A message with one contributing source. -/
def mixedMessage : RTPMessage where
  rtpHeader := { voiceHeader with cc := 1 }
  payload _ := 0

/-- One source is enough for the first loop to run to entry 255. -/
theorem mixedMessage_not_kept : 255 ∈ touchedSources mixedMessage.rtpHeader.cc ∧
    ¬KeepsSources mixedMessage.rtpHeader
      (relayMessage (rtpMessageToSrpp ⟨1, 0, 19, 0⟩ mixedMessage [] 7 0) 7 (fun _ => 0) (fun _ => 0)
        freshMessage (RTPMessage.new 1 (fun _ => 0) (fun _ => 0))) := by
  have hmem : 255 ∈ touchedSources mixedMessage.rtpHeader.cc := by decide
  exact ⟨hmem, fun h => absurd (h.inside 255 hmem) (by decide)⟩

/-- The statement at this message. -/
theorem sources_never_kept_mixed : mixedMessage.rtpHeader.cc ≠ 0#4 ∧
    ¬KeepsSources mixedMessage.rtpHeader
      (relayMessage (rtpToSrpp ⟨1, 0, 19, 0⟩ mixedMessage.rtpHeader [] [] 7 0) 7 (fun _ => 0)
        (fun _ => 0) freshMessage (RTPMessage.new 1 (fun _ => 0) (fun _ => 0))) := by
  have hcc : mixedMessage.rtpHeader.cc ≠ 0#4 := by decide
  exact ⟨hcc, (sources_never_kept (m := mixedMessage) (fun _ => 0) (fun _ => 0) freshMessage
    (RTPMessage.new 1 (fun _ => 0) (fun _ => 0)) hcc).1⟩

end Sqrkal.Message
