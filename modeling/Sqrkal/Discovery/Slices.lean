import Sqrkal.Discovery.Quiet
import Sqrkal.Discovery.Run

/-! # The parts of a packet that are passed on

`process_packet` compares the length of a packet with 28 and with nothing else, and then
passes on parts of it that begin at 28, at 40 or behind the transport header, and headers
of 28, 40 and 80 bytes. Here these parts are listed as the branches pass them on, in the
states in which they do.
-/

namespace Sqrkal.Discovery
open Foundation Message Library

/-- A part of a packet of so many bytes. -/
structure Slice where
  start : ℤ
  length : ℤ
  bytes : ℤ

/-- The part has no negative length and lies inside the packet. -/
def Slice.IsInside (s : Slice) : Prop := 0 ≤ s.start ∧ 0 ≤ s.length ∧ s.start + s.length ≤ s.bytes

instance (s : Slice) : Decidable s.IsInside := inferInstanceAs (Decidable (_ ∧ _))

@[simp] theorem Slice.isInside_mk {start length bytes : ℤ} :
    Slice.IsInside ⟨start, length, bytes⟩ ↔ 0 ≤ start ∧ 0 ≤ length ∧ start + length ≤ bytes :=
  Iff.rfl

/-- No header of a media packet has been stored yet. -/
def wantsHeader (g : Globals) : Prop := g.rtpHdset = 0 ∨ g.rtpHdset = 1

instance (g : Globals) : Decidable (wantsHeader g) := inferInstanceAs (Decidable (_ ∨ _))

/-- Where the payload of an outbound packet begins. -/
def payloadStart (isSrtp : Bool) : ℤ := if isSrtp then 28 else 40

section Branches
variable (env : Env) (host : Host) (F : Functors Globals)

/-- What the inbound branch passes on. -/
inductive PassesInbound (buff : Mem) (n : ℤ) (source : BitVec 16) (u : Process) : Slice → Prop
  -- `isSignalingMessage`
  | signalHeader : PassesInbound buff n source u ⟨28, 80, n⟩
  -- `processReceivedData`
  | signal (h : isSignalingBuffer (buff.shift 28) = 1) : PassesInbound buff n source u ⟨28, n - 28, n⟩
  -- the copy to `rtp_header`
  | header {v : Process} (h : (receiveSignal env F buff n).run u = .ok ((), v))
      (hset : wantsHeader v.ext) : PassesInbound buff n source u ⟨0, 40, n⟩
  -- `network_to_srpp`
  | message {v : Process}
      (h : (do announce env F buff n; startIf env F (startsInbound · source) : Op Unit).run u =
        .ok ((), v))
      (happly : v.ext.applySrpp = true) : PassesInbound buff n source u ⟨28, n - 28, n⟩

/-- What the outbound branch passes on, once the ends of the call are known. The header is
stored from the packet as it is sent. -/
inductive PassesOutbound (packet : ℕ) (buff : Mem) (n : ℤ) (u : Process) : Slice → Prop
  -- `rtp_to_srpp`
  | payload {v : Process}
      (h : (do
        setGlobals fun g => { g with sentCount := g.sentCount + 1 }
        startIf env F startsOutbound : Op Unit).run u = .ok ((), v))
      (happly : v.ext.applySrpp = true) :
      PassesOutbound packet buff n u ⟨payloadStart v.ext.isSrtp, n - payloadStart v.ext.isSrtp, n⟩
  -- the copy to `rtp_header`
  | header {r : Mem × ℤ} {v : Process}
      (h : (prepareOutbound env F packet buff n).run u = .ok (r, v)) (hset : wantsHeader v.ext) :
      PassesOutbound packet buff n u ⟨0, 40, r.2⟩

/-- The buffer and the state with which the RTP branch is entered: for a media packet, or
behind the SIP branch if `is_rtp` has been set meanwhile. -/
inductive EntersMedia (w : Process) (p : Packet) : Mem → Process → Prop
  | media (h : IsMedia w.ext p) : EntersMedia w p p.mem (enterRtp w p)
  | behindSip {r : Mem × ℤ} {v : Process} (h : IsSip w.ext.sipPorts p)
      (hrun : (handleSip env host F p.id p.mem p.bytes.length (isInward host p)).run (enterSip w p) =
        .ok (r, v))
      (hrtp : v.ext.isRtp = true) : EntersMedia w p r.1 v

/-- What `process_packet` passes on of a packet. -/
inductive Passes (w : Process) (p : Packet) : Slice → Prop
  -- `parse_sip`
  | sipText (h : IsSip w.ext.sipPorts p) :
      Passes w p ⟨transportAt p.mem + 8, p.bytes.length - (transportAt p.mem + 8), p.bytes.length⟩
  -- the copy to `rtp_header`
  | sipHeader {r : Mem × ℤ} {v : Process} (h : IsSip w.ext.sipPorts p)
      (hrun : (parseAndForward env host F p.id p.mem p.bytes.length (isInward host p)).run
        (enterSip w p) = .ok (r, v))
      (hset : v.ext.rtpHdset = 0) : Passes w p ⟨0, 28, p.bytes.length⟩
  | inbound {buff : Mem} {u : Process} {s : Slice} (h : EntersMedia env host F w p buff u)
      (hin : IsInward host p)
      (hs : PassesInbound env F buff p.bytes.length (htons (p.mem.load16 (transportAt p.mem))) u s) :
      Passes w p s
  | outbound {buff : Mem} {u : Process} {s : Slice} (h : EntersMedia env host F w p buff u)
      (hout : ¬IsInward host p) (hends : u.ext.outport ≠ 0 ∧ u.ext.rtpDest ≠ 0)
      (hs : PassesOutbound env F p.id buff p.bytes.length
        { u with ext := { u.ext with rtpSrc := saddr buff } } s) : Passes w p s

/-- Every part that is passed on lies inside the packet. -/
def StaysInside (w : Process) (p : Packet) : Prop := ∀ s, Passes env host F w p s → s.IsInside

end Branches

/-! ## How long a packet has to be -/

/-- The bytes an outbound packet needs once it is decided whether it is converted: those in
front of its payload, or those of the header that is stored. -/
def neededOutbound (g : Globals) : ℤ :=
  if g.applySrpp then payloadStart g.isSrtp else if wantsHeader g then 40 else 28

section Lengths
variable (env : Env) (host : Host) (F : Functors Globals)

/-- A packet is long enough for the RTP branch, entered in some state. An outbound packet that
starts a session is judged in the state behind its start. -/
structure FitsMedia (p : Packet) (buff : Mem) (u : Process) : Prop where
  inbound : IsInward host p → 108 ≤ p.bytes.length
  outbound : ¬IsInward host p → u.ext.outport ≠ 0 → u.ext.rtpDest ≠ 0 → ∀ v,
    (startIf env F startsOutbound).run (sending buff u) = .ok ((), v) →
      neededOutbound v.ext ≤ p.bytes.length

/-- A packet is long enough. A SIP packet that ends a session has to be long enough for the
RTP branch as well, if a packet that is read meanwhile sets `is_rtp`. -/
structure LongEnough (w : Process) (p : Packet) : Prop where
  sip : IsSip w.ext.sipPorts p → transportAt p.mem + 8 ≤ p.bytes.length
  mixed : IsSip w.ext.sipPorts p → endsSession w.ext (sipText p) → ∀ r v,
    (handleSip env host F p.id p.mem p.bytes.length (isInward host p)).run (enterSip w p) =
      .ok (r, v) → v.ext.isRtp = true → FitsMedia env host F p r.1 v
  media : IsMedia w.ext p → FitsMedia env host F p p.mem (enterRtp w p)

end Lengths

/-- A packet that starts no session is judged in the state in which it comes. -/
theorem fitsMedia_iff_of_idle {env : Env} {host : Host} {F : Functors Globals} {p : Packet}
    {buff : Mem} {u : Process} (hout : ¬IsInward host p)
    (hstart : startsOutbound (sending buff u).ext = false) :
    FitsMedia env host F p buff u ↔
      (u.ext.outport ≠ 0 → u.ext.rtpDest ≠ 0 → neededOutbound u.ext ≤ p.bytes.length) := by
  have hidle : (startIf env F startsOutbound).run (sending buff u) = .ok ((), sending buff u) :=
    startIf_idle hstart
  constructor
  · intro h hport hdest
    have hneeded := h.outbound hout hport hdest _ hidle
    exact hneeded
  · refine fun h => ⟨fun hin => absurd hin hout, fun _ hport hdest v hv => ?_⟩
    cases hidle.symm.trans hv
    exact h hport hdest

section Sufficient
variable {env : Env} {host : Host} {F : Functors Globals} {packet : ℕ} {buff : Mem} {n : ℤ}
  {w u v : Process} {p : Packet} {s : Slice}

theorem passesInbound_inside {source : BitVec 16} (hn : 108 ≤ n)
    (h : PassesInbound env F buff n source u s) : s.IsInside := by
  cases h with
  | signalHeader => simpa using hn
  | signal _ =>
    rw [Slice.isInside_mk]
    omega
  | header _ _ =>
    rw [Slice.isInside_mk]
    omega
  | message _ _ =>
    rw [Slice.isInside_mk]
    omega

theorem payload_inside {isSrtp : Bool} (hn : payloadStart isSrtp ≤ n) :
    Slice.IsInside ⟨payloadStart isSrtp, n - payloadStart isSrtp, n⟩ := by
  have hstart : 0 ≤ payloadStart isSrtp := by
    cases isSrtp <;> decide
  rw [Slice.isInside_mk]
  omega

theorem passesOutbound_inside
    (hneeded : ∀ v, (startIf env F startsOutbound).run (sending buff u) = .ok ((), v) →
      neededOutbound v.ext ≤ n)
    (h : PassesOutbound env F packet buff n { u with ext := { u.ext with rtpSrc := saddr buff } } s) :
    s.IsInside := by
  cases h with
  | @payload v h happly =>
    have hn := hneeded v h
    rw [neededOutbound, if_pos happly] at hn
    exact payload_inside hn
  | header h hset =>
    rw [prepareOutbound_eq, run_bind_ok (setGlobals_run _ _)] at h
    rcases run_bind_eq_ok h with ⟨_, u', hstart, hconvert⟩
    have hn := hneeded u' hstart
    rw [run_get_bind] at hconvert
    split_ifs at hconvert with happly
    · have hsize := convertOutboundOp_size hconvert
      rw [Slice.isInside_mk]
      omega
    · cases hconvert
      rw [neededOutbound, if_neg happly, if_pos hset] at hn
      rw [Slice.isInside_mk]
      omega

/-- A SIP packet comes to the RTP branch only if it ends a session. -/
theorem FitsMedia.of_enters {buff : Mem} (h : LongEnough env host F w p)
    (henter : EntersMedia env host F w p buff u) : FitsMedia env host F p buff u := by
  cases henter with
  | media hm => exact h.media hm
  | behindSip hsip hrun hrtp =>
    by_cases hend : endsSession w.ext (sipText p)
    · exact h.mixed hsip hend _ _ hrun hrtp
    · rw [handleSip_kind hend hrun] at hrtp
      cases hrtp

/-- Everything that is passed on of a packet that is long enough lies inside it. -/
theorem staysInside_of_longEnough (h : LongEnough env host F w p) : StaysInside env host F w p := by
  intro s hs
  cases hs with
  | sipText hsip =>
    have hn := h.sip hsip
    have hstart : 0 ≤ transportAt p.mem := by
      unfold transportAt
      positivity
    rw [Slice.isInside_mk]
    omega
  | sipHeader hsip _ _ =>
    have hn := hsip.length
    rw [Slice.isInside_mk]
    omega
  | inbound henter hin hs =>
    have hn := (FitsMedia.of_enters h henter).inbound hin
    exact passesInbound_inside (by exact_mod_cast hn) hs
  | outbound henter hout hends hs =>
    exact passesOutbound_inside ((FitsMedia.of_enters h henter).outbound hout hends.1 hends.2) hs

end Sufficient

section Necessary
variable {env : Env} {host : Host} {F : Functors Globals} {w u : Process} {p : Packet} {buff : Mem}

/-- A packet comes to the RTP branch with at least 28 bytes. -/
theorem EntersMedia.length (h : EntersMedia env host F w p buff u) : 28 ≤ p.bytes.length := by
  cases h with
  | media hm => exact hm.length
  | behindSip hsip _ _ => exact hsip.length

theorem fitsMedia_of_staysInside (h : StaysInside env host F w p)
    (henter : EntersMedia env host F w p buff u) : FitsMedia env host F p buff u where
  inbound hin := by
    have hinside := h _ (.inbound henter hin .signalHeader)
    rw [Slice.isInside_mk] at hinside
    omega
  outbound hout hport hdest v hv := by
    have hlen := henter.length
    have hpass : ∀ {s}, PassesOutbound env F p.id buff p.bytes.length
        { u with ext := { u.ext with rtpSrc := saddr buff } } s → s.IsInside :=
      fun hs => h _ (.outbound henter hout ⟨hport, hdest⟩ hs)
    rw [neededOutbound]
    split_ifs with happly hset
    · have hinside := hpass (.payload hv happly)
      rw [Slice.isInside_mk] at hinside
      omega
    · have hprepare : (prepareOutbound env F p.id buff p.bytes.length).run
          { u with ext := { u.ext with rtpSrc := saddr buff } } =
            .ok ((buff, (p.bytes.length : ℤ)), v) := by
        rw [prepareOutbound_eq, run_bind_ok (setGlobals_run _ _), startAndConvert]
        refine (run_bind_ok hv).trans ?_
        rw [run_get_bind, if_neg happly]
        rfl
      have hinside := hpass (.header hprepare hset)
      rw [Slice.isInside_mk] at hinside
      omega
    · omega

/-- A packet is long enough if everything that is passed on lies inside it. -/
theorem longEnough_of_staysInside (h : StaysInside env host F w p) : LongEnough env host F w p where
  sip hsip := by
    have hinside := h _ (.sipText hsip)
    rw [Slice.isInside_mk] at hinside
    omega
  mixed hsip _ _ _ hrun hrtp := fitsMedia_of_staysInside h (.behindSip hsip hrun hrtp)
  media hm := fitsMedia_of_staysInside h (.media hm)

/-- What is passed on of a packet lies inside it exactly if the packet is long enough. -/
theorem staysInside_iff_longEnough :
    StaysInside env host F w p ↔ LongEnough env host F w p :=
  ⟨longEnough_of_staysInside, staysInside_of_longEnough⟩

end Necessary

/-- A negative length of the payload is not only passed on, it ends the process. -/
theorem convertOutboundOp_short {env : Env} {packet : ℕ} {buff : Mem} {n : ℤ} {w : Process}
    (h : n < payloadStart w.ext.isSrtp) :
    (convertOutboundOp env packet buff n).run w = .error .lengthError := by
  have hpayload : outboundPayload w.ext.isSrtp buff n = .error .lengthError := if_pos h
  rw [convertOutboundOp, run_bind_ok (observe_run _ _), encodeOutbound,
    run_bind_ok (setGlobals_run _ _), run_bind_ok (setGlobals_run _ _), run_get_bind]
  apply run_bind_error
  apply run_lift_error
  dsimp only
  split_ifs
  · exact hpayload
  · exact hpayload

/-- A call with SRPP on port 5000. -/
def protectedCall : Process :=
  let w := atMain (Env.constant 0)
  { w with ext := { w.ext with
    rtpPorts := [5000], inport := 5000, outport := 5000, rtpDest := 0x0200000a, rtpHdset := 2
    sentCount := 1, applySrpp := true } }

/-- A UDP packet that goes out on port 5000. -/
def sentPacket (payload : List Byte) : Packet := udpPacketBetween 1 2 1 5000 payload

/-- Of an RTP packet of twelve bytes, a payload of no bytes is passed on. -/
theorem staysInside_header :
    StaysInside (Env.constant 0) localHost (functors (Env.constant 0) localHost 1) protectedCall
      (sentPacket (List.replicate 12 0)) := by
  have hout : ¬IsInward localHost (sentPacket (List.replicate 12 0)) := by decide +kernel
  have hsip : ¬IsSip protectedCall.ext.sipPorts (sentPacket (List.replicate 12 0)) := by decide +kernel
  refine staysInside_iff_longEnough.mpr
    { sip := fun h => absurd h hsip
      mixed := fun h => absurd h hsip
      media := fun _ => (fitsMedia_iff_of_idle hout (by decide +kernel)).mpr fun _ _ => ?_ }
  decide

/-- Of a packet without payload, as it is sent to keep a binding alive, twelve bytes less than
nothing are passed on, which ends the process. -/
theorem keepAlive_not_inside : 28 ≤ (sentPacket []).bytes.length ∧
    (processPacket (Env.constant 0) localHost (functors (Env.constant 0) localHost 1)
      (sentPacket [])).run protectedCall = .error .lengthError ∧
    ¬StaysInside (Env.constant 0) localHost (functors (Env.constant 0) localHost 1) protectedCall
      (sentPacket []) := by
  have hm : IsMedia protectedCall.ext (sentPacket []) := by decide +kernel
  have hout : ¬IsInward localHost (sentPacket []) := by decide +kernel
  let v := sending (sentPacket []).mem (enterRtp protectedCall (sentPacket []))
  have hidle : (startIf (Env.constant 0) (functors (Env.constant 0) localHost 1) startsOutbound).run v =
      .ok ((), v) := startIf_idle (by decide +kernel)
  have hshort : ((sentPacket []).bytes.length : ℤ) < payloadStart v.ext.isSrtp := by decide
  refine ⟨by decide, ?_, fun h => ?_⟩
  · rw [processPacket_media hm, if_neg hout, outboundRtp, run_bind_ok (setGlobals_run _ _),
      run_get_bind, if_neg (by decide)]
    refine run_bind_error ?_
    rw [prepareOutbound_eq, run_bind_ok (setGlobals_run _ _)]
    refine (run_bind_ok hidle).trans ?_
    rw [run_get_bind, if_pos (show v.ext.applySrpp = true from rfl)]
    exact convertOutboundOp_short hshort
  · have hinside := h _ (.outbound (.media hm) hout (by decide) (.payload hidle rfl))
    revert hinside
    decide

end Sqrkal.Discovery
