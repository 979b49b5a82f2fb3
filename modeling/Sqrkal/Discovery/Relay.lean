import Sqrkal.Discovery.Consistency
import Sqrkal.Discovery.Delivery
import Sqrkal.Discovery.FullBandwidth
import Sqrkal.Library.PaddingSteps
import Sqrkal.Message.Encoded

/-! # Media between two processes

One process converts a packet and sends it, the network carries it, another process converts
it back and hands it to its own endpoint. With the same key at both, the media arrive as they
were, apart from bytes that equal the key and, in RTP mode, from the order of bytes in the
header.
-/

namespace Sqrkal.Discovery
open Foundation Mem Message Library Relation

/-! ## The sender -/

section Sender
variable {env : Env} {host : Host} {F : Functors Globals} {p : Packet} {d : Datagram}

/-- What `rtp_to_srpp` makes of a packet without contributing sources. -/
theorem rtpToSrppOp_sent {l l' : Lib} {rtp : RTPHeader} {data : List Byte} {msg : SRPPMessage}
    (hcc : rtp.cc = 0#4) (h : (rtpToSrppOp env rtp data).run l = .ok (msg, l')) :
    ∃ f padding draw, msg = sentMedia f rtp data padding l.session.encryptionKey draw ∧
      l'.session = l.session := by
  rw [rtpToSrppOp, run_bind_ok (nextFresh_run l env),
    run_bind_ok (run_lift_ok (rtpFields_of_cc_zero _ rtp data hcc) _)] at h
  obtain ⟨extra, l₁, mem, i, -, -, hpad⟩ := pad_run env l.constructed (plainMedia (l.fresh env) rtp data)
    rfl hcc
  revert hpad
  cases dummyBytes mem (l.constructed.padding.dummyCache i).encryptedPart.originalPayload.length
      extra with
  | error e =>
    intro hpad
    rw [run_bind_error hpad] at h
    cases h
  | ok padding =>
    rintro ⟨l₂, hpad, -, hsession⟩
    rw [run_bind_ok hpad] at h
    cases h
    have hkey : l₂.session = l.session := hsession
    refine ⟨l.fresh env, padding, env.rand l₂.tick, ?_, hkey⟩
    rw [← hkey]
    rfl

variable {w w' : Process}

/-- The conversion of a packet, with the header and the key it takes. -/
theorem convertOutboundOp_parts {packet : ℕ} {buff : Mem} {bytesRead : ℤ} {r : Mem × ℤ}
    (h : (convertOutboundOp env packet buff bytesRead).run w = .ok (r, w')) :
    ∃ data msg l srppBuff filler, outboundPayload w.ext.isSrtp buff bytesRead = .ok data ∧
      (rtpToSrppOp env (RTPHeader.load buff 28) data).run w.lib = .ok (msg, l) ∧
      placeOutbound msg buff l.session.encryptionKey srppBuff filler = .ok r ∧
      w'.log = .converted packet :: w.log := by
  rw [convertOutboundOp, run_bind_ok (observe_run _ _), encodeOutbound,
    run_bind_ok (setGlobals_run _ _), run_bind_ok (setGlobals_run _ _), run_get_bind] at h
  rcases run_bind_eq_ok h with ⟨data, _, hlift, h⟩
  rcases run_lift_eq_ok hlift with ⟨hdata, rfl⟩
  rcases run_bind_eq_ok h with ⟨msg, _, hmsg, h⟩
  rcases onLib_eq_ok hmsg with ⟨l, hl, rfl⟩
  rw [run_bind_ok (setGlobals_run _ _), run_bind_ok (onLib_run rfl), run_get_bind] at h
  rcases run_lift_eq_ok h with ⟨hplace, rfl⟩
  dsimp only at hdata hplace hl ⊢
  by_cases hs : w.ext.ssrcValue = 0
  · rw [if_pos hs] at hdata
    exact ⟨_, _, _, _, _, hdata, hl, hplace, rfl⟩
  · rw [if_neg hs] at hdata
    exact ⟨_, _, _, _, _, hdata, hl, hplace, rfl⟩

/-- The converted packet: the headers of IP and UDP, and the encoding. -/
theorem convertOutboundOp_encoded {packet : ℕ} {buff : Mem} {bytesRead : ℤ} {r : Mem × ℤ}
    (hcc : (RTPHeader.load buff 28).cc = 0#4)
    (h : (convertOutboundOp env packet buff bytesRead).run w = .ok (r, w')) :
    ∃ data padding bytes, outboundPayload w.ext.isSrtp buff bytesRead = .ok data ∧
      IsEncoded w.lib.session.encryptionKey (RTPHeader.load buff 28) data padding bytes ∧
      r.1 = buff.write 28 bytes ∧ r.2 = 28 + bytes.length ∧ w'.log = .converted packet :: w.log := by
  obtain ⟨data, msg, l, srppBuff, filler, hdata, hl, hplace, hlog⟩ := convertOutboundOp_parts h
  rcases rtpToSrppOp_sent hcc hl with ⟨f, padding, draw, rfl, hsession⟩
  rw [hsession] at hplace
  rcases placeOutbound_ok hplace with ⟨wire, hwire, hbuff, hn⟩
  obtain ⟨wire', hwire', hiswire⟩ := srppToNetwork_isWire
    (sentMedia f (RTPHeader.load buff 28) data padding w.lib.session.encryptionKey draw) srppBuff filler
    w.lib.session.encryptionKey hcc
  rw [hwire'] at hwire
  obtain rfl := Except.ok.inj hwire
  refine ⟨data, padding, _, hdata, ⟨f, draw, srppBuff, wire', hiswire, rfl⟩, hbuff, ?_, hlog⟩
  have hsize := srppSize_ge
    (sentMedia f (RTPHeader.load buff 28) data padding w.lib.session.encryptionKey draw)
  rw [hn, read_length]
  omega

end Sender

/-! ## The end of both branches -/

section Delivery
variable {env : Env} {host : Host} {F : Functors Globals} {w u v : Process} {p : Packet} {d : Datagram}

/-- Behind the headers nothing is written any more. -/
theorem readdress_agreesOn {buff : Mem} {n hi : ℤ} (h : ihl buff = 5) (port : BitVec 16)
    (addr : BitVec 32) (ttl : ℤ) :
    AgreesOn (formChecksums (readdress port addr ttl buff n (transportAt buff))) buff 28 hi := by
  have ht : transportAt buff = 20 := transportAt_of_ihl h
  have hfirst : readdress port addr ttl buff n 20 0 = buff 0 := by
    simp only [readdress, setTtl, setTotLen, setDaddr, store16, store32]
    simp [write_apply_outside]
  have hihl : ihl (readdress port addr ttl buff n 20) = 5 := (ihl_congr hfirst).trans h
  have htransport := transportAt_of_ihl hihl
  rw [ht]
  exact (formChecksums_agreesOn_of (.inr (by decide)) (.inr (by omega))).trans
    ((write_agreesOn (.inr (by simp))).trans ((store16_agreesOn _ _ _ (.inr (by decide))).trans
      ((store16_agreesOn _ _ _ (.inr (by decide))).trans ((store32_agreesOn _ _ _ (.inr (by decide))).trans
        (store16_agreesOn _ _ _ (.inr (by decide)))))))

/-- A packet of two fragments is not sent as one datagram. -/
theorem forward_sendsWhole_fits {id : ℕ} {events : List Event} {buff buff' : Mem} {n : ℤ}
    (hlog : u.log = events ++ w.log) (hevents : ∀ e ∈ events, ¬IsOf id e)
    (h : (forward env id buff n).run u = .ok (buff', v)) (hd : SendsWhole id w v d) : n ≤ ipMtu := by
  by_contra hbig
  let handed : Process := { u with log := .handedOver id :: u.log }
  have hrun : (forward env id buff n).run u = (sendFragmentedMessage env id buff n).run handed := by
    rw [forward, run_bind_ok (observe_run _ _), if_pos (not_le.mp hbig)]
  have heq := h.symm.trans (hrun.trans (sendFragmentedMessage_run env id buff handed n))
  cases heq
  have hfresh : Event.handedOver id ∉ events := fun he => hevents _ he rfl
  have hraw : ∀ b a k, Event.handedOver id ∉ rawEvents id b a k := by
    intro b a k
    unfold rawEvents
    split_ifs <;> simp
  rcases hd with ⟨later, earlier, hd⟩
  dsimp only [handed] at hd
  rw [hlog, List.append_cons, List.append_cons later, ← List.cons_append, ← List.cons_append,
    ← List.append_assoc, ← List.append_assoc] at hd
  have hsaid := List.append_cancel_right hd
  -- in front of a pair of fragments stands that the packet is fragmented
  have hlast := congrArg List.getLast?
    ((List.append_cons_inj_of_notMem (by simp [hraw]) hfresh).mp hsaid).1
  simp at hlast

/-- The datagram of a packet that has kept its headers holds what the buffer held behind them. -/
theorem readdressed_datagram {r : Mem × ℤ} {events : List Event} {buff' : Mem} (h : ihl p.mem = 5)
    (hr : KeepsHeaders p.mem r) (hlog : u.log = events ++ w.log) (hevents : ∀ e ∈ events, ¬IsOf p.id e)
    {port : BitVec 16} {addr : BitVec 32} {ttl : ℤ}
    (hforward : (forward env p.id (readdress port addr ttl r.1 r.2 (transportAt p.mem)) r.2).run u =
      .ok (buff', v)) (hd : SendsWhole p.id w v d) :
    r.2 ≤ ipMtu ∧ d.bytes.drop 28 = r.1.read 28 (r.2 - 28).toNat := by
  have hihl : ihl r.1 = 5 := (ihl_congr (hr.1 0 le_rfl (by decide))).trans h
  have ht : transportAt p.mem = transportAt r.1 := by
    rw [transportAt_of_ihl h, transportAt_of_ihl hihl]
  have hsize := hr.2
  rw [ht] at hforward
  refine ⟨forward_sendsWhole_fits hlog hevents hforward hd, ?_⟩
  rw [(forward_sendsWhole hlog hevents hforward hd).2, show r.2.toNat = 28 + (r.2 - 28).toNat by omega,
    read_add, List.drop_left' (read_length _ _ _)]
  exact (readdress_agreesOn hihl port addr ttl).read le_rfl le_rfl

/-- A media packet that goes out as one datagram while SRPP is applied: behind the headers stands
its encoding. -/
theorem outbound_encoded {r : Option ℤ} (hp : IsMedia w.ext p) (hout : ¬IsInward host p)
    (happly : w.ext.applySrpp = true) (hihl : ihl p.mem = 5) (hcc : (RTPHeader.load p.mem 28).cc = 0#4)
    (h : (processPacket env host F p).run w = .ok (r, v)) (hd : SendsWhole p.id w v d) :
    ∃ data padding, outboundPayload w.ext.isSrtp p.mem p.bytes.length = .ok data ∧
      IsEncoded w.lib.session.encryptionKey (RTPHeader.load p.mem 28) data padding (d.bytes.drop 28) ∧
      28 + (d.bytes.drop 28).length ≤ ipMtu := by
  rw [processPacket_media hp, if_neg hout, outboundRtp, run_bind_ok (setGlobals_run _ _),
    run_get_bind] at h
  dsimp only at h
  split_ifs at h
  · cases h
    exact absurd hd (not_sendsWhole_of_log rfl)
  · have hidle : startsOutbound (leaving w p).ext = false := by
      simp [startsOutbound, leaving, sending, enterRtp, happly]
    rw [prepareOutbound_eq, bind_assoc, run_bind_ok (setGlobals_run _ _)] at h
    rcases run_bind_eq_ok h with ⟨converted, u, hconvert, h⟩
    rw [startAndConvert, run_bind_ok (startIf_idle (by exact hidle)), run_get_bind,
      if_pos (by exact happly)] at hconvert
    obtain ⟨data, padding, bytes, hdata, hencoded, hbuff, hsize, hlog⟩ :=
      convertOutboundOp_encoded hcc hconvert
    have hkeeps := convertOutboundOp_headers hconvert
    rcases run_bind_eq_ok h with ⟨_, _, hdeliver, hend⟩
    cases hend
    rw [deliverOutbound, run_bind_ok (setGlobals_run _ _), run_get_bind] at hdeliver
    dsimp only at hdeliver
    rw [addressOutbound_eq, captureHeader, run_bind_ok (setGlobals_run _ _),
      run_bind_ok (setGlobals_run _ _)] at hdeliver
    rcases run_bind_eq_ok hdeliver with ⟨_, _, hforward, hend⟩
    cases hend
    have hevents : ∀ e ∈ [Event.converted p.id], ¬IsOf p.id e := by simp [IsOf]
    rcases readdressed_datagram hihl hkeeps (by exact hlog) hevents hforward hd with ⟨hfits, hbytes⟩
    have hdrop : d.bytes.drop 28 = bytes := by
      rw [hbytes, hbuff, hsize, add_sub_cancel_left, Int.toNat_natCast]
      exact read_write_self _ _ _
    rw [hdrop]
    exact ⟨data, padding, hdata, hencoded, hsize ▸ hfits⟩

end Delivery

/-! ## The receiver -/

section Receiver
variable {env : Env} {host : Host} {F : Functors Globals} {v : Process} {q : Packet} {key : BitVec 32}
  {rtp : RTPHeader} {data padding : List Byte}

theorem mem_read_drop (p : Packet) (k : ℕ) : p.mem.read k (p.bytes.drop k).length = p.bytes.drop k := by
  rw [read_eq_iff]
  intro i hi
  rw [List.length_drop] at hi
  rw [List.getElem_drop, show (k : ℤ) + i = 0 + ((k + i : ℕ) : ℤ) by push_cast; omega]
  exact write_apply_inside p.rest 0 p.bytes (k + i) (by omega)

theorem mem_shift_read (q : Packet) :
    (q.mem.shift 28).read 0 (q.bytes.drop 28).length = q.bytes.drop 28 := by
  refine Eq.trans ?_ (mem_read_drop q 28)
  rw [read_eq_read_iff]
  intro i _
  rw [shift, zero_add, add_comm]
  rfl

/-- Media are not taken for signalling. -/
theorem encoded_not_signalling {bytes : List Byte} {mem : Mem} (h : IsEncoded key rtp data padding bytes)
    (hmem : mem.read 0 bytes.length = bytes) (hk : key.toNat < 2 ^ 31) (hpad : padding.length ≤ 1500) :
    isSignalingBuffer mem ≠ 1 := by
  obtain ⟨f, draw, scratch, hwire⟩ := h.isWire hmem hk hpad
  rcases hwire.header with ⟨csrc, hheader⟩
  rw [isSignalingBuffer, hheader]
  exact signalingClass_ne_one.mpr (.inl (htonl_eq_zero.mpr rfl))

/-- A packet that is not for the endpoint alone is neither signalling nor starts a session. -/
theorem announce_media {buff : Mem} {n : ℤ} (hsignal : isSignalingBuffer (buff.shift 28) ≠ 1) :
    ∃ header hdset, (announce env F buff n).run v = .ok ((), { v with ext := { v.ext with
      rtpDest := saddr buff, recvCount := v.ext.recvCount + 1, rtpHeader := header, rtpHdset := hdset } }) := by
  rcases captureHeader_run buff { v with ext := { v.ext with
    rtpDest := saddr buff, recvCount := v.ext.recvCount + 1 } } with ⟨header, hdset, hcapture⟩
  refine ⟨header, hdset, ?_⟩
  rw [announce, receiveSignal, bind_assoc, run_bind_ok (setGlobals_run _ _), if_neg hsignal]
  exact hcapture

section Decoding
variable {buff : Mem} (hrtp : rtp = RTPHeader.load buff 28) (hcc : rtp.cc = 0#4)
  (hk : v.lib.session.encryptionKey.toNat < 2 ^ 31) (hpadded : 1 ≤ padding.length)
  (hpad : padding.length ≤ 1500) (hlen : 28 ≤ q.bytes.length)
  (h : IsEncoded v.lib.session.encryptionKey rtp data padding (q.bytes.drop 28))
include hrtp hcc hk hpadded hpad hlen h

theorem decodeInbound_restores : ∃ r msg,
    (decodeInbound env q.mem q.bytes.length).run v =
      .ok (r, ⟨v.lib.ticked, { v.ext with srppMsg := msg }, v.log⟩) ∧
    Restores v.ext.isSrtp v.lib.session.encryptionKey buff data r := by
  obtain ⟨received, hreceived, hdecodes⟩ :=
    h.decodes (mem_shift_read q) hk hpad hcc hpadded v.ext.srppMsg
  have hlength : ((q.bytes.drop 28).length : ℤ) = q.bytes.length - 28 := by
    rw [List.length_drop]
    omega
  rw [hlength] at hreceived
  rw [decodeInbound, run_bind_ok (onLib_run rfl), run_get_bind]
  by_cases hs : v.ext.isSrtp = true
  · obtain ⟨msg, r, hconvert, hrestores⟩ := convertInboundSrtp_restores hdecodes hreceived buff
      (env.junk v.lib.tick)
    refine ⟨r, msg, ?_, hs ▸ hrestores⟩
    dsimp only
    rw [if_neg (by simp [hs]), run_bind_ok (run_lift_ok hconvert _)]
    rfl
  · obtain ⟨msg, r, hconvert, hrestores⟩ := convertInboundRtp_restores hdecodes hreceived hrtp hcc
      (RTPMessage.new ((env.junk v.lib.tick).load16 0)
        (fun i => (env.junk v.lib.tick).load32 (12 + 4 * (i : ℕ))) (env.junk v.lib.tick))
      (env.junk v.lib.tick)
    refine ⟨r, msg, ?_, (Bool.eq_false_iff.mpr hs) ▸ hrestores⟩
    dsimp only
    rw [if_pos (by simp [hs]), run_bind_ok (run_lift_ok hconvert _)]
    rfl

end Decoding

/-- The end of the inbound branch sends the packet to the local endpoint. -/
theorem deliverInbound_restored {buff : Mem} {r : Mem × ℤ} {isSrtp : Bool} {w : Process} {events : List Event}
    (h : Restores isSrtp key buff data r) (hihl : ihl q.mem = 5) (hkeeps : KeepsHeaders q.mem r)
    (hfits : r.2 ≤ ipMtu) (hport : htonsInt v.ext.inport ≠ 0) (hlog : v.log = events ++ w.log) :
    ∃ v' d', (deliverInbound env q.id r.1 r.2 (transportAt q.mem)).run v = .ok ((), v') ∧
      SendsWhole q.id w v' d' ∧ localEndpoint v.ext = ⟨d'.addr, d'.port⟩ ∧
      Restored isSrtp key buff data d'.bytes := by
  have hr : ihl r.1 = 5 := (ihl_congr (hkeeps.1 0 le_rfl (by decide))).trans hihl
  have ht : transportAt q.mem = transportAt r.1 := by
    rw [transportAt_of_ihl hihl, transportAt_of_ihl hr]
  have hsize := hkeeps.2
  let point := addressInbound v.ext r.1 r.2 (transportAt r.1)
  let u : Process := { v with ext := { v.ext with outAddr := ⟨daddr point, htonsInt v.ext.inport⟩ } }
  have hforward := forward_fits env q.id point u hfits
  have hevents : rawEvents q.id (formChecksums point) u.ext.outAddr r.2 =
      [.rawMessage q.id ⟨daddr point, htonsInt v.ext.inport, (formChecksums point).read 0 r.2.toNat⟩] :=
    if_neg (not_or.mpr ⟨hport, by omega⟩)
  rw [ht]
  refine ⟨{ u with log := rawEvents q.id (formChecksums point) u.ext.outAddr r.2 ++ .handedOver q.id :: u.log },
    ⟨daddr point, htonsInt v.ext.inport, (formChecksums point).read 0 r.2.toNat⟩, ?_,
    ⟨[], events, ?_⟩, ?_, h.restored fun hi => readdress_agreesOn hr _ _ _⟩
  · rw [deliverInbound, run_get_bind]
    dsimp only
    rw [run_bind_ok (setGlobals_run _ _), run_bind_ok hforward]
    rfl
  · dsimp only
    rw [hevents, ← hlog]
    rfl
  · rw [addressInbound_daddr _ _ _ (by rw [transportAt_of_ihl hr])]
    rfl

/-- A media packet that comes in while SRPP is applied, and that is not the first of a call. -/
structure IsConverted (host : Host) (v : Process) (q : Packet) : Prop where
  media : IsMedia v.ext q
  inward : IsInward host q
  applied : v.ext.applySrpp = true
  notFirst : v.ext.recvCount ≠ 0 ∨ 5 ≤ v.ext.sentCount
  port : htonsInt v.ext.inport ≠ 0
  header : ihl q.mem = 5

instance (host : Host) (v : Process) (q : Packet) : Decidable (IsConverted host v q) :=
  decidable_of_iff (IsMedia v.ext q ∧ IsInward host q ∧ v.ext.applySrpp = true ∧
    (v.ext.recvCount ≠ 0 ∨ 5 ≤ v.ext.sentCount) ∧ htonsInt v.ext.inport ≠ 0 ∧ ihl q.mem = 5)
    ⟨fun h => ⟨h.1, h.2.1, h.2.2.1, h.2.2.2.1, h.2.2.2.2.1, h.2.2.2.2.2⟩,
      fun h => ⟨h.media, h.inward, h.applied, h.notFirst, h.port, h.header⟩⟩

/-- An encoding that comes in is converted back, and goes to the local endpoint. -/
theorem inbound_restored {buff : Mem} (hq : IsConverted host v q) (hrtp : rtp = RTPHeader.load buff 28)
    (hcc : rtp.cc = 0#4) (hk : v.lib.session.encryptionKey.toNat < 2 ^ 31) (hpadded : 1 ≤ padding.length)
    (hfits : 28 + (q.bytes.drop 28).length ≤ ipMtu)
    (h : IsEncoded v.lib.session.encryptionKey rtp data padding (q.bytes.drop 28)) :
    ∃ r v' d', (processPacket env host F q).run v = .ok (r, v') ∧ SendsWhole q.id v v' d' ∧
      localEndpoint v.ext = ⟨d'.addr, d'.port⟩ ∧
      Restored v.ext.isSrtp v.lib.session.encryptionKey buff data d'.bytes := by
  have hlength := h.length
  have hpad : padding.length ≤ 1500 := by
    rw [ipMtu] at hfits
    omega
  obtain ⟨header, hdset, hannounce⟩ := @announce_media env F (enterRtp v q) q.mem q.bytes.length
    (encoded_not_signalling h (mem_shift_read q) hk hpad)
  let u : Process := { enterRtp v q with ext := { (enterRtp v q).ext with
    rtpDest := saddr q.mem, recvCount := v.ext.recvCount + 1, rtpHeader := header, rtpHdset := hdset } }
  have hidle : startsInbound u.ext (htons (q.mem.load16 (transportAt q.mem))) = false := by
    have hnotFirst := hq.notFirst
    simp only [u, enterRtp, startsInbound, hq.applied, Bool.not_true, Bool.and_false, Bool.false_or,
      Bool.and_eq_false_iff, decide_eq_false_iff_not]
    omega
  obtain ⟨r, msg, hdecode, hrestores⟩ := @decodeInbound_restores env
    { u with log := .converted q.id :: u.log } q rtp data padding buff hrtp hcc hk hpadded hpad
    hq.media.length h
  let z : Process := ⟨u.lib.ticked, { u.ext with srppMsg := msg }, .converted q.id :: u.log⟩
  have hconvert : (convertInbound env q.id q.mem q.bytes.length).run u = .ok (r, z) := by
    rw [convertInbound, run_bind_ok (observe_run _ _)]
    exact hdecode
  have hprepare : (prepareInbound env F q.id q.mem q.bytes.length
      (htons (q.mem.load16 (transportAt q.mem)))).run (enterRtp v q) = .ok (r, z) := by
    rw [prepareInbound_eq, run_bind_ok hannounce, startAndConvert, run_bind_ok (startIf_idle hidle),
      run_get_bind, if_pos (by exact hq.applied)]
    exact hconvert
  have hkeeps : KeepsHeaders q.mem r :=
    convertInbound_headers (by have hlen := hq.media.length; omega) hconvert
  have hsize : r.2 ≤ ipMtu := by
    have hstart := (mediaStart_bounds v.ext.isSrtp).2
    have hrestored : r.2 = mediaStart v.ext.isSrtp + data.length := hrestores.length
    omega
  rcases @deliverInbound_restored env z q _ data buff r v.ext.isSrtp v [.converted q.id] hrestores
    hq.header hkeeps hsize hq.port rfl with ⟨v', d', hdeliver, hsends, hend, hrestored⟩
  refine ⟨none, v', d', ?_, hsends, hend, hrestored⟩
  rw [processPacket_media hq.media, if_pos hq.inward, inboundRtp, bind_assoc, run_bind_ok hprepare,
    run_bind_ok hdeliver]
  rfl

end Receiver

/-! ## From one endpoint to the other -/

/-- A media packet that goes out while SRPP is applied, without options and contributing sources. -/
structure IsEncrypted (host : Host) (w : Process) (p : Packet) : Prop where
  media : IsMedia w.ext p
  outward : ¬IsInward host p
  applied : w.ext.applySrpp = true
  header : ihl p.mem = 5
  cc : (RTPHeader.load p.mem 28).cc = 0#4

instance (host : Host) (w : Process) (p : Packet) : Decidable (IsEncrypted host w p) :=
  decidable_of_iff (IsMedia w.ext p ∧ ¬IsInward host p ∧ w.ext.applySrpp = true ∧ ihl p.mem = 5 ∧
    (RTPHeader.load p.mem 28).cc = 0#4)
    ⟨fun h => ⟨h.1, h.2.1, h.2.2.1, h.2.2.2.1, h.2.2.2.2⟩,
      fun h => ⟨h.media, h.outward, h.applied, h.header, h.cc⟩⟩

/-- A process hands its endpoint the media of a packet: as many bytes, the same media if they are
clean, and in RTP mode a header with three fields turned around. -/
def HandsBack (env : Env) (host : Host) (F : Functors Globals) (v : Process) (q p : Packet) : Prop :=
  ∃ r v' d, (processPacket env host F q).run v = .ok (r, v') ∧ SendsWhole q.id v v' d ∧
    localEndpoint v.ext = ⟨d.addr, d.port⟩ ∧ d.bytes.length = p.bytes.length ∧
    (IsClean v.lib.session.encryptionKey (p.bytes.drop (mediaStart v.ext.isSrtp)) →
      d.bytes.drop (mediaStart v.ext.isSrtp) = p.bytes.drop (mediaStart v.ext.isSrtp)) ∧
    (v.ext.isSrtp = false → (d.bytes.drop 28).take 12 = turnedHeader p.mem)

/-- Two processes have the same key and the same mode. -/
structure SameSession (w v : Process) : Prop where
  key : v.lib.session.encryptionKey = w.lib.session.encryptionKey
  nonneg : w.lib.session.encryptionKey.toNat < 2 ^ 31
  mode : v.ext.isSrtp = w.ext.isSrtp

section Relay
variable {env env' : Env} {host host' : Host} {F F' : Functors Globals} {w w' v : Process}
  {p q : Packet} {d : Datagram} {r : Option ℤ}

/-- The datagram of a packet is long enough to hold some padding. -/
def IsPadded (w : Process) (p : Packet) (d : Datagram) : Prop :=
  p.bytes.length + 120 < d.bytes.length + mediaStart w.ext.isSrtp

instance (w : Process) (p : Packet) (d : Datagram) : Decidable (IsPadded w p d) :=
  inferInstanceAs (Decidable (_ < _))

/-- What has arrived of a packet: its padded encoding, in one datagram. -/
structure Carries (w : Process) (p q : Packet) (data padding : List Byte) : Prop where
  payload : outboundPayload w.ext.isSrtp p.mem p.bytes.length = .ok data
  encoded : IsEncoded w.lib.session.encryptionKey (RTPHeader.load p.mem 28) data padding
    (q.bytes.drop 28)
  padded : 1 ≤ padding.length
  fits : 28 + (q.bytes.drop 28).length ≤ ipMtu

theorem carries_of_sent (hp : IsEncrypted host w p)
    (hrun : (processPacket env host F p).run w = .ok (r, w')) (hd : SendsWhole p.id w w' d)
    (hpadded : IsPadded w p d) (harrived : q.bytes.drop 28 = d.bytes.drop 28) :
    ∃ data padding, Carries w p q data padding := by
  obtain ⟨data, padding, hdata, hencoded, hfits⟩ :=
    outbound_encoded hp.media hp.outward hp.applied hp.header hp.cc hrun hd
  refine ⟨data, padding, hdata, harrived ▸ hencoded, ?_, harrived ▸ hfits⟩
  have hlength := (outboundPayload_read hdata).2
  have hsize := hencoded.length
  unfold IsPadded at hpadded
  rw [List.length_drop] at hsize
  omega

theorem Carries.handsBack {data padding : List Byte} (h : Carries w p q data padding)
    (hcc : (RTPHeader.load p.mem 28).cc = 0#4) (hsame : SameSession w v) (hq : IsConverted host v q) :
    HandsBack env host F v q p := by
  rcases outboundPayload_read h.payload with ⟨hread, hlength⟩
  have hmedia : data = p.bytes.drop (mediaStart v.ext.isSrtp) := by
    have hdrop := mem_read_drop p (mediaStart w.ext.isSrtp)
    rw [List.length_drop, show p.bytes.length - mediaStart w.ext.isSrtp = data.length by omega] at hdrop
    rw [hsame.mode]
    exact hread.trans hdrop
  obtain ⟨r, v', d, hpacket, hsends, hend, hrestored⟩ := @inbound_restored env host F v q _ data padding
    p.mem hq rfl hcc (by rw [hsame.key]; exact hsame.nonneg) h.padded h.fits
    (by rw [hsame.key]; exact h.encoded)
  refine ⟨r, v', d, hpacket, hsends, hend, ?_, ?_, hrestored.header⟩
  · have hsize := hrestored.length
    rw [hsame.mode] at hsize
    omega
  · rw [← hmedia]
    exact hrestored.media

/-- Whatever else two processes of one session are in the middle of: padded media that one of them
has sent as one datagram are handed by the other to its endpoint. -/
theorem media_relayed (hp : IsEncrypted host w p)
    (hrun : (processPacket env host F p).run w = .ok (r, w')) (hd : SendsWhole p.id w w' d)
    (hpadded : IsPadded w p d) (hsame : SameSession w v) (hq : IsConverted host' v q)
    (harrived : q.bytes.drop 28 = d.bytes.drop 28) : HandsBack env' host' F' v q p := by
  rcases carries_of_sent hp hrun hd hpadded harrived with ⟨data, padding, h⟩
  exact h.handsBack hp.cc hsame hq

end Relay

/-- The datagram of a packet that has been converted and sent as a whole. -/
def convertedDatagram (id : ℕ) (w w' : Process) : Option Datagram :=
  match w'.log with
  | .rawMessage i d :: .handedOver j :: .converted k :: log =>
    if i = id ∧ j = id ∧ k = id ∧ log = w.log then some d else none
  | _ => none

theorem sendsWhole_of_converted {id : ℕ} {w w' : Process} {d : Datagram}
    (h : convertedDatagram id w w' = some d) : SendsWhole id w w' d := by
  unfold convertedDatagram at h
  split at h
  · next i d' j k log hlog =>
    split_ifs at h with hwhole
    cases h
    rcases hwhole with ⟨rfl, rfl, rfl, hrest⟩
    exact ⟨[], [.converted _], by rw [hlog, hrest]; rfl⟩
  · cases h

/-- A call in which both ends have announced port 5000, and a HELLOACK. -/
def mutualCall : List (Option Packet) :=
  some (sentSip 5 "INVITE sip:b Content-Type: application/sdp m=audio 5000 RTP/AVP ") :: announcedCall

/-- A packet with the message of a datagram, as it comes in. -/
def carriedPacket (d : Datagram) : Packet := udpPacket 4 5000 (d.bytes.drop 28)

/-- Four bytes of media at both ends of the same session. -/
theorem four_bytes_relayed : ∃ w d, Reached (Env.constant 0) localHost 1 w ∧
    HandsBack (Env.constant 0) localHost (functors (Env.constant 0) localHost 1) w (carriedPacket d)
      (spokenPacket [1, 2, 3, 4]) := by
  let p := spokenPacket [1, 2, 3, 4]
  have hcheck : endsIn (session (Env.constant 0) localHost 1 mutualCall 1 3) (atMain (Env.constant 0))
      (fun w => endsIn (processPacket (Env.constant 0) localHost (functors (Env.constant 0) localHost 1) p)
        w fun w' => (convertedDatagram p.id w w').any fun d =>
          decide (IsEncrypted localHost w p ∧ IsConverted localHost w (carriedPacket d) ∧
            w.lib.session.encryptionKey.toNat < 2 ^ 31 ∧
            IsPadded w p d)) = true := by decide +kernel
  rcases endsIn_run hcheck with ⟨_, w, hsession, hw⟩
  rcases endsIn_run hw with ⟨r, w', hrun, hsent⟩
  rw [Option.any_eq_true] at hsent
  rcases hsent with ⟨d, hd, hgood⟩
  rcases of_decide_eq_true hgood with ⟨hp, hq, hnonneg, hpadded⟩
  exact ⟨w, d, session_run hsession, media_relayed hp hrun (sendsWhole_of_converted hd) hpadded
    ⟨rfl, hnonneg, rfl⟩ hq (by simp [carriedPacket, udpPacket, udpPacketBetween, le16])⟩

/-! ## Full bandwidth -/

section Full
variable {env : Env} {host : Host} {w : Process} {p : Packet}

/-- In full bandwidth mode every packet leaves, as one datagram for the other endpoint. -/
theorem fullBandwidth_sends (hw : Reached env host 1 w) (hp : IsPaddable host w.ext p)
    (hc : IsConnected w.ext) (F : Functors Globals) : ∃ r w' d,
    (processPacket env host F p).run w = .ok (r, w') ∧ SendsWhole p.id w w' d ∧
      d.bytes.length = 1486 ∧ d.addr = w.ext.rtpDest ∧ d.port = htonsInt w.ext.outport := by
  rcases hw.padding with ⟨hm, hdrawable⟩
  let u : Process := { enterRtp w p with ext := { (enterRtp w p).ext with rtpSrc := saddr p.mem } }
  have hu : IsPaddable host u.ext p := ⟨⟨hp.media.length, hp.media.protocol, hp.media.notSip,
    hp.media.isRtp⟩, hp.outward, hp.applied, hp.cc, hp.whole, hp.payload⟩
  have hends : ¬((enterRtp w p).ext.outport = 0 ∨ (enterRtp w p).ext.rtpDest = 0) :=
    not_or.mpr ⟨hc.1, hc.2.1⟩
  obtain ⟨buff, lib, g, hprep, hgport, hgdest⟩ :=
    @prepareOutbound_full env host F u p (hdrawable (by decide)) hm hu
  obtain ⟨sent, w', hdeliver, hlog⟩ := deliverOutbound_fits env ⟨lib, g, .converted p.id :: u.log⟩ p buff
    (transportAt p.mem) (show (1486 : ℤ) ≤ ipMtu by decide)
  have hraw : rawEvents p.id sent ⟨g.rtpDest, htonsInt g.outport⟩ 1486 =
      [.rawMessage p.id ⟨g.rtpDest, htonsInt g.outport, sent.read 0 1486⟩] :=
    if_neg (not_or.mpr ⟨by rw [hgport]; exact hc.2.2, by decide⟩)
  rw [hraw] at hlog
  refine ⟨none, w', _, ?_, ⟨[], [.converted p.id], hlog⟩, read_length _ _ _, hgdest, congrArg htonsInt hgport⟩
  rw [processPacket_media hp.media, if_neg hp.outward, outboundRtp, run_bind_ok (setGlobals_run _ _),
    run_get_bind]
  dsimp only
  rw [if_neg hends, run_bind_ok hprep, run_bind_ok hdeliver]
  rfl

end Full

end Sqrkal.Discovery
