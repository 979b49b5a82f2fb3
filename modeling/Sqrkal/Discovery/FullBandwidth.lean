import Sqrkal.Discovery.Media
import Sqrkal.Discovery.Run
import Sqrkal.Message.Framing

/-! # Full bandwidth hides the size of a packet

In full bandwidth mode the padding fills a payload up to 1366 bytes. Every entry of
the cache has some payload, so the padding loop ends with exactly the bytes asked
for, and every packet leaves as one datagram of the same size.
-/

namespace Sqrkal.Discovery
open Foundation Message Library

/-! ## The message -/

section Encoding
variable (env : Env)

/-- A media packet without contributing sources becomes an SRPP message whose payload
and padding have 1366 bytes together. -/
theorem rtpToSrppOp_full {l : Lib} (hd : Drawable l.padding) (hm : HasMode 1 l.padding)
    {rtp : RTPHeader} {data : List Byte} (hcc : rtp.cc = 0#4) (hlen : data.length ≤ 1366) :
    ∃ msg l', (rtpToSrppOp env rtp data).run l = .ok (msg, l') ∧ msg.srppHeader.cc = 0#4 ∧
      srppSize msg = 1458 := by
  obtain ⟨m, hfields⟩ : ∃ m, rtpFields (l.fresh env) rtp data = .ok m := by
    simp only [rtpFields, hcc, csrcLoop_zero]
    exact ⟨_, rfl⟩
  rcases rtpFields_ok hfields with ⟨hs, hc, hdata⟩
  rcases pad_run env l.constructed m hs hc with ⟨extra, l₁, mem, i, hi, hdraw, hpad⟩
  have hextra : extra = 1366 - (data.length : ℤ) := by
    rw [← hdata]
    exact hdraw.full hm.full hd.steady hm.perturbation hm.burst
  -- the drawn entry is not empty, so the loop that copies from it comes to an end
  have hentry : (l.constructed.padding.dummyCache i).encryptedPart.originalPayload.length ≠ 0 :=
    fun h => (hd.entry i hi).payload (List.length_eq_zero_iff.mp h)
  rcases dummyBytes_ok mem hentry extra with ⟨padding, hbytes⟩
  rw [hbytes] at hpad
  rcases hpad with ⟨l₂, hrun, -, -⟩
  have hpadding : padding.length = 1366 - data.length := by
    rw [dummyBytes_length hbytes, hextra]
    omega
  rw [rtpToSrppOp, run_bind_ok (nextFresh_run l env), run_bind_ok (run_lift_ok hfields _),
    run_bind_ok hrun, run_bind_ok (rawRand_run _ env)]
  refine ⟨_, _, rfl, hc, ?_⟩
  change (80 : ℤ) + (m.encryptedPart.originalPayload.map _).length + (padding.map _).length + 12 = 1458
  rw [List.length_map, List.length_map, hdata, hpadding]
  omega

end Encoding

/-- A media packet that goes out while SRPP is applied, with a payload that can be padded. -/
structure IsPaddable (host : Host) (g : Globals) (p : Packet) : Prop where
  media : IsMedia g p
  outward : ¬IsInward host p
  applied : g.applySrpp = true
  cc : (RTPHeader.load p.mem 28).cc = 0#4
  whole : (if g.isSrtp then 28 else 40) ≤ p.bytes.length
  payload : p.bytes.length - (if g.isSrtp then 28 else 40) ≤ 1366

instance (host : Host) (g : Globals) (p : Packet) : Decidable (IsPaddable host g p) :=
  decidable_of_iff (IsMedia g p ∧ ¬IsInward host p ∧ g.applySrpp = true ∧
    (RTPHeader.load p.mem 28).cc = 0#4 ∧ (if g.isSrtp then 28 else 40) ≤ p.bytes.length ∧
    p.bytes.length - (if g.isSrtp then 28 else 40) ≤ 1366)
    ⟨fun h => ⟨h.1, h.2.1, h.2.2.1, h.2.2.2.1, h.2.2.2.2.1, h.2.2.2.2.2⟩,
      fun h => ⟨h.media, h.outward, h.applied, h.cc, h.whole, h.payload⟩⟩

section Outbound
variable {env : Env} {host : Host} {F : Functors Globals} {w : Process} {p : Packet}

theorem IsPaddable.outboundPayload (hp : IsPaddable host w.ext p) : ∃ data,
    outboundPayload w.ext.isSrtp p.mem p.bytes.length = .ok data ∧ data.length ≤ 1366 := by
  have hwhole := hp.whole
  have hpayload := hp.payload
  unfold Message.outboundPayload
  dsimp only
  cases hs : w.ext.isSrtp with
  | false =>
    rw [hs] at hwhole hpayload
    simp only [Bool.false_eq_true, if_false] at hwhole hpayload ⊢
    rw [if_neg (by omega)]
    exact ⟨_, rfl, by rw [Mem.read_length]; omega⟩
  | true =>
    rw [hs] at hwhole hpayload
    simp only [if_true] at hwhole hpayload ⊢
    rw [if_neg (by omega)]
    exact ⟨_, rfl, by rw [Mem.read_length]; omega⟩

/-- The bookkeeping before the conversion. -/
def noteInput (g : Globals) (p : Packet) : Globals :=
  let g := { g with inputPacketSizes := g.inputPacketSizes ++ [(p.bytes.length : ℤ)] }
  if g.ssrcValue = 0 then { g with ssrcValue := (RTPHeader.load p.mem 28).ssrc } else g

theorem noteInput_eq (g : Globals) (p : Packet) : (noteInput g p).isSrtp = g.isSrtp ∧
    (noteInput g p).outport = g.outport ∧ (noteInput g p).rtpDest = g.rtpDest := by
  unfold noteInput
  dsimp only
  split_ifs <;> exact ⟨rfl, rfl, rfl⟩

/-- The conversion gives 1486 bytes, says nothing and keeps the addresses. -/
theorem encodeOutbound_full (hd : Drawable w.lib.padding) (hm : HasMode 1 w.lib.padding)
    (hp : IsPaddable host w.ext p) : ∃ buff lib g,
    (encodeOutbound env p.mem p.bytes.length).run w = .ok ((buff, 1486), ⟨lib, g, w.log⟩) ∧
      g.outport = w.ext.outport ∧ g.rtpDest = w.ext.rtpDest := by
  rcases noteInput_eq w.ext p with ⟨hsrtp, hport, hdest⟩
  rcases hp.outboundPayload with ⟨data, hdata, hlen⟩
  rcases rtpToSrppOp_full env hd hm hp.cc hlen with ⟨msg, l, hmsg, hcc, hsize⟩
  obtain ⟨wire, hwire, -⟩ := srppToNetwork_isWire msg (env.junk l.tick) (env.filler l.tick)
    l.ticked.session.encryptionKey hcc
  let u : Process := ⟨w.lib, noteInput w.ext p, w.log⟩
  have hplace : placeOutbound msg p.mem l.ticked.session.encryptionKey (env.junk l.tick)
      (env.filler l.tick) = .ok (p.mem.write 28 (wire.read 0 1458), 1486) := by
    rw [placeOutbound, hwire]
    simp only [bind, Except.bind, pure, Except.pure, hsize]
    rfl
  refine ⟨p.mem.write 28 (wire.read 0 1458), l.ticked, { noteInput w.ext p with srppMsg := msg }, ?_,
    hport, hdest⟩
  rw [encodeOutbound, run_bind_ok (setGlobals_run _ _), run_bind_ok (setGlobals_run _ _), run_get_bind]
  change ((liftM (outboundPayload (noteInput w.ext p).isSrtp p.mem p.bytes.length) :
    Op (List Byte)) >>= _).run u = _
  rw [hsrtp, run_bind_ok (run_lift_ok hdata u), run_bind_ok (onLib_run (w := u) hmsg),
    run_bind_ok (setGlobals_run _ _)]
  change (liftM (placeOutbound msg p.mem l.ticked.session.encryptionKey (env.junk l.tick)
    (env.filler l.tick)) : Op (Mem × ℤ)).run _ = _
  rw [run_lift_ok hplace]
  rfl

/-- While SRPP is applied, a packet that goes out is converted at once. -/
theorem prepareOutbound_applied (packet : ℕ) (buff : Mem) (bytesRead : ℤ)
    (h : w.ext.applySrpp = true) : (prepareOutbound env F packet buff bytesRead).run w =
      (convertOutboundOp env packet buff bytesRead).run
        { w with ext := { w.ext with sentCount := w.ext.sentCount + 1 } } := by
  have hstarts : startsOutbound { w.ext with sentCount := w.ext.sentCount + 1 } = false := by
    simp [startsOutbound, h]
  rw [prepareOutbound, run_bind_ok (setGlobals_run _ _), run_get_bind]
  dsimp only
  rw [hstarts, if_neg (by decide), run_bind_ok (run_pure_eq _ _), run_get_bind, if_pos h]

theorem prepareOutbound_full (hd : Drawable w.lib.padding) (hm : HasMode 1 w.lib.padding)
    (hp : IsPaddable host w.ext p) : ∃ buff lib g,
    (prepareOutbound env F p.id p.mem p.bytes.length).run w =
        .ok ((buff, 1486), ⟨lib, g, .converted p.id :: w.log⟩) ∧
      g.outport = w.ext.outport ∧ g.rtpDest = w.ext.rtpDest := by
  let u : Process := ⟨w.lib, { w.ext with sentCount := w.ext.sentCount + 1 }, .converted p.id :: w.log⟩
  have hu : IsPaddable host u.ext p := ⟨⟨hp.media.length, hp.media.protocol, hp.media.notSip,
    hp.media.isRtp⟩, hp.outward, hp.applied, hp.cc, hp.whole, hp.payload⟩
  rcases encodeOutbound_full (w := u) hd hm hu with ⟨buff, lib, g, hrun, haddr⟩
  refine ⟨buff, lib, g, ?_, haddr⟩
  rw [prepareOutbound_applied _ _ _ hp.applied, convertOutboundOp, run_bind_ok (observe_run _ _)]
  exact hrun

variable (env w p) in
/-- What fits is sent in one piece to the other endpoint. -/
theorem deliverOutbound_fits (buff : Mem) {bytesRead : ℤ} (offset : ℤ) (h : bytesRead ≤ ipMtu) :
    ∃ buff' w', (deliverOutbound env p.id buff bytesRead offset).run w = .ok ((), w') ∧
      w'.log = rawEvents p.id buff' ⟨w.ext.rtpDest, htonsInt w.ext.outport⟩ bytesRead ++
        .handedOver p.id :: w.log := by
  obtain ⟨header, hdset, hcapture⟩ := captureHeader_run
    (addressOutbound { w.ext with outputPacketSizes := w.ext.outputPacketSizes ++ [bytesRead] } buff
      bytesRead offset)
    { w with ext := { w.ext with outputPacketSizes := w.ext.outputPacketSizes ++ [bytesRead] } }
  rw [deliverOutbound, run_bind_ok (setGlobals_run _ _), run_get_bind]
  dsimp only
  rw [run_bind_ok hcapture, run_bind_ok (setGlobals_run _ _), run_bind_ok (forward_fits env p.id _ _ h)]
  exact ⟨_, _, rfl, rfl⟩

end Outbound

/-! ## What an observer sees -/

/-- `process_packet` returns, and these are the events of the call. -/
def Emits (env : Env) (host : Host) (F : Functors Globals) (w : Process) (p : Packet)
    (events : List Event) : Prop :=
  ∃ r w', (processPacket env host F p).run w = .ok (r, w') ∧ w'.log = events ++ w.log

/-- The sizes of the datagrams among some events. -/
def sizes : List Event → List ℕ :=
  List.filterMap fun
    | .rawMessage _ d => some d.bytes.length
    | .rtpMessage d => some d.bytes.length
    | _ => none

/-- The other endpoint is known, with a port that can be sent to. -/
def IsConnected (g : Globals) : Prop := g.outport ≠ 0 ∧ g.rtpDest ≠ 0 ∧ htonsInt g.outport ≠ 0

instance (g : Globals) : Decidable (IsConnected g) := inferInstanceAs (Decidable (_ ∧ _ ∧ _))

/-- One datagram of 1486 bytes, or none while the other endpoint is not known. -/
structure IsUniform (g : Globals) (events : List Event) : Prop where
  sizes : sizes events = if IsConnected g then [1486] else []
  whole : ∀ packet, .fragmented packet ∉ events

section Observer
variable {env : Env} {host : Host} {w : Process} {p : Packet}

theorem rawEvents_sizes (packet : ℕ) (buff : Mem) (a : SockAddr) (n : ℕ) :
    sizes (rawEvents packet buff a (n + 1)) = if a.port = 0 then [] else [n + 1] := by
  unfold rawEvents
  by_cases h : a.port = 0
  · rw [if_pos (Or.inl h), if_pos h]
    rfl
  · rw [if_neg (not_or.mpr ⟨h, by omega⟩), if_neg h]
    change [(buff.read 0 (n + 1)).length] = _
    rw [Mem.read_length]

theorem rawEvents_whole (packet : ℕ) (buff : Mem) (a : SockAddr) (length : ℤ) (id : ℕ) :
    .fragmented id ∉ rawEvents packet buff a length := by
  unfold rawEvents
  split_ifs <;> simp

/-- The events of the call for a packet that is sent on. -/
theorem isUniform_sent {g : Globals} (hport : g.outport ≠ 0) (hdest : g.rtpDest ≠ 0) (packet : ℕ)
    (buff : Mem) : IsUniform g (rawEvents packet buff ⟨g.rtpDest, htonsInt g.outport⟩ 1486 ++
      [.handedOver packet, .converted packet]) := by
  refine ⟨?_, fun id => ?_⟩
  · have hsizes := rawEvents_sizes packet buff ⟨g.rtpDest, htonsInt g.outport⟩ 1485
    have happend : sizes (rawEvents packet buff ⟨g.rtpDest, htonsInt g.outport⟩ 1486 ++
        [.handedOver packet, .converted packet]) =
        sizes (rawEvents packet buff ⟨g.rtpDest, htonsInt g.outport⟩ 1486) := by
      simp [sizes]
    rw [happend]
    apply hsizes.trans
    by_cases h : htonsInt g.outport = 0
    · rw [if_pos h, if_neg fun hc => hc.2.2 h]
    · rw [if_neg h, if_pos ⟨hport, hdest, h⟩]
  · simp [rawEvents_whole]

/-- In full bandwidth mode the events of a call do not depend on the packet's size. -/
theorem emits_full (hd : Drawable w.lib.padding) (hm : HasMode 1 w.lib.padding)
    (hp : IsPaddable host w.ext p) (F : Functors Globals) :
    ∃ events, Emits env host F w p events ∧ IsUniform w.ext events := by
  let u : Process := { enterRtp w p with ext := { (enterRtp w p).ext with rtpSrc := saddr p.mem } }
  have hu : IsPaddable host u.ext p := ⟨⟨hp.media.length, hp.media.protocol, hp.media.notSip,
    hp.media.isRtp⟩, hp.outward, hp.applied, hp.cc, hp.whole, hp.payload⟩
  have hbranch : (processPacket env host F p).run w =
      (outboundRtp env F p.id p.mem p.bytes.length (transportAt p.mem)).run (enterRtp w p) := by
    rw [processPacket_media hp.media, if_neg hp.outward]
  rw [outboundRtp, run_bind_ok (setGlobals_run _ _), run_get_bind] at hbranch
  dsimp only at hbranch
  by_cases hnone : (enterRtp w p).ext.outport = 0 ∨ (enterRtp w p).ext.rtpDest = 0
  · -- nothing is sent before the other endpoint is known
    refine ⟨[], ⟨some 0, u, ?_, rfl⟩, ?_, fun _ => List.not_mem_nil⟩
    · rw [hbranch, if_pos hnone]
      rfl
    · rw [if_neg fun hc => hnone.elim hc.1 hc.2.1]
      rfl
  · rcases not_or.mp hnone with ⟨hport, hdest⟩
    obtain ⟨buff, lib, g, hprep, hgport, hgdest⟩ := prepareOutbound_full (F := F) (w := u) hd hm hu
    obtain ⟨buff', w', hdel, hlog⟩ := deliverOutbound_fits env
      ⟨lib, g, .converted p.id :: u.log⟩ p buff (transportAt p.mem) (show (1486 : ℤ) ≤ ipMtu by decide)
    rw [hgport, hgdest] at hlog
    refine ⟨_, ⟨none, w', ?_, ?_⟩, isUniform_sent (g := w.ext) hport hdest p.id buff'⟩
    · rw [hbranch, if_neg hnone, run_bind_ok hprep, run_bind_ok hdel]
      rfl
    · rw [hlog, List.append_assoc]
      rfl

end Observer

/-- An INVITE that announces a port, and a HELLOACK. -/
def announcedCall : List (Option Packet) :=
  [some (udpPacket 1 5060 (text "INVITE sip:a Content-Type: application/sdp m=audio 5000 RTP/AVP ")),
    some (udpPacket 2 5000 (signalBytes 13 (helloAckOptions 1464))), none]

/-- An RTP packet of the local endpoint, with some payload. -/
def spokenPacket (payload : List Byte) : Packet :=
  udpPacketBetween 1 2 3 5000 ([0x80, 0, 0, 1, 0, 0, 0, 0, 0, 0, 0, 19] ++ payload)

end Sqrkal.Discovery
