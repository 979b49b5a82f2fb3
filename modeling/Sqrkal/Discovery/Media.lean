import Sqrkal.Discovery.Process

/-! # The branches of `process_packet`

A packet is recognised by its ports. Once it has been recognised as media, what happens to
it is decided by the side it comes from.
-/

namespace Sqrkal.Discovery
open Foundation Mem Message Library

/-- A packet that `process_packet` takes for media. -/
structure IsMedia (g : Globals) (p : Packet) : Prop where
  length : 28 ≤ p.bytes.length
  protocol : p.mem 9 = 17 ∨ p.mem 9 = 6
  notSip : matchesPort (htons (p.mem.load16 (transportAt p.mem)))
    (htons (p.mem.load16 (transportAt p.mem + 2))) g.sipPorts = false
  isRtp : matchesPort (htons (p.mem.load16 (transportAt p.mem)))
    (htons (p.mem.load16 (transportAt p.mem + 2))) g.rtpPorts = true

instance (g : Globals) (p : Packet) : Decidable (IsMedia g p) :=
  decidable_of_iff (28 ≤ p.bytes.length ∧ (p.mem 9 = 17 ∨ p.mem 9 = 6) ∧
    matchesPort (htons (p.mem.load16 (transportAt p.mem)))
      (htons (p.mem.load16 (transportAt p.mem + 2))) g.sipPorts = false ∧
    matchesPort (htons (p.mem.load16 (transportAt p.mem)))
      (htons (p.mem.load16 (transportAt p.mem + 2))) g.rtpPorts = true)
    ⟨fun h => ⟨h.1, h.2.1, h.2.2.1, h.2.2.2⟩, fun h => ⟨h.length, h.protocol, h.notSip, h.isRtp⟩⟩

/-- The packet comes from outside. -/
def IsInward (host : Host) (p : Packet) : Prop := host.addresses.contains (saddr p.mem) = false

instance (host : Host) (p : Packet) : Decidable (IsInward host p) :=
  inferInstanceAs (Decidable (_ = _))

/-- A packet that `process_packet` takes for SIP, for given SIP ports. -/
structure IsSip (ports : List ℤ) (p : Packet) : Prop where
  length : 28 ≤ p.bytes.length
  protocol : p.mem 9 = 17 ∨ p.mem 9 = 6
  isSip : matchesPort (htons (p.mem.load16 (transportAt p.mem)))
    (htons (p.mem.load16 (transportAt p.mem + 2))) ports = true

instance (ports : List ℤ) (p : Packet) : Decidable (IsSip ports p) :=
  decidable_of_iff (28 ≤ p.bytes.length ∧ (p.mem 9 = 17 ∨ p.mem 9 = 6) ∧
    matchesPort (htons (p.mem.load16 (transportAt p.mem)))
      (htons (p.mem.load16 (transportAt p.mem + 2))) ports = true)
    ⟨fun h => ⟨h.1, h.2.1, h.2.2⟩, fun h => ⟨h.length, h.protocol, h.isSip⟩⟩

/-- The direction `process_packet` finds for a packet. -/
def isInward (host : Host) (p : Packet) : Bool := !host.addresses.contains (saddr p.mem)

/-- The text `parse_sip` is given for a packet. -/
def sipText (p : Packet) : List Byte :=
  p.mem.read (transportAt p.mem + 8) (p.bytes.length - (transportAt p.mem + 8)).toNat

/-- The state in which the SIP branch is entered. -/
def enterSip (w : Process) (p : Packet) : Process :=
  { w with ext := { w.ext with isUdp := decide (p.mem 9 = 17), isSip := true, isRtp := false } }

/-- What `process_packet` does behind the SIP branch: `is_rtp` is read again. -/
def afterSip (env : Env) (host : Host) (F : Functors Globals) (p : Packet) (r : Mem × ℤ) :
    Op (Option ℤ) := do
  if (← get).ext.isRtp then
    if isInward host p then
      inboundRtp env F p.id r.1 p.bytes.length r.2 (htons (p.mem.load16 (transportAt p.mem)))
      return none
    else outboundRtp env F p.id r.1 p.bytes.length r.2
  else return none

/-- A packet of neither kind. -/
def dropPacket (p : Packet) : Op (Option ℤ) := do
  if (p.bytes.length : ℤ) < 28 then return some (-1)
  else if p.mem 9 ≠ 17 ∧ p.mem 9 ≠ 6 then return some 0
  else
    setGlobals fun g => { g with isUdp := p.mem 9 = 17, isSip := false, isRtp := false }
    return some 0

/-- The state in which the media branch is entered. -/
def enterRtp (w : Process) (p : Packet) : Process :=
  { w with ext := { w.ext with isUdp := decide (p.mem 9 = 17), isSip := false, isRtp := true } }

section Branches
variable {env : Env} {host : Host} {F : Functors Globals} {w : Process} {p : Packet}

theorem not_short (h : 28 ≤ p.bytes.length) : ¬((p.bytes.length : ℤ) < 28) := by omega

theorem not_foreign (h : p.mem 9 = 17 ∨ p.mem 9 = 6) : ¬(p.mem 9 ≠ 17 ∧ p.mem 9 ≠ 6) := by
  rcases h with h | h
  · exact fun hn => hn.1 h
  · exact fun hn => hn.2 h

theorem processPacket_media (hp : IsMedia w.ext p) :
    (processPacket env host F p).run w =
      (if IsInward host p then do
          inboundRtp env F p.id p.mem p.bytes.length (transportAt p.mem)
            (htons (p.mem.load16 (transportAt p.mem)))
          return none
        else outboundRtp env F p.id p.mem p.bytes.length (transportAt p.mem)).run (enterRtp w p) := by
  rw [processPacket]
  dsimp only
  rw [if_neg (not_short hp.length), if_neg (not_foreign hp.protocol), run_bind_ok (setGlobals_run _ _), run_get_bind]
  dsimp only
  rw [hp.notSip, hp.isRtp]
  by_cases hin : IsInward host p
  · rw [if_pos hin, show host.addresses.contains (saddr p.mem) = false from hin]
    rfl
  · rw [if_neg hin, show host.addresses.contains (saddr p.mem) = true from Bool.of_not_eq_false hin]
    rfl

theorem processPacket_sip (hp : IsSip w.ext.sipPorts p) :
    (processPacket env host F p).run w = (do
      let r ← handleSip env host F p.id p.mem p.bytes.length (isInward host p)
      afterSip env host F p r).run (enterSip w p) := by
  rw [processPacket]
  dsimp only
  rw [if_neg (not_short hp.length), if_neg (not_foreign hp.protocol), run_bind_ok (setGlobals_run _ _), run_get_bind]
  dsimp only
  rw [hp.isSip]
  rfl

/-- Any other packet is dropped. -/
theorem processPacket_other (hs : ¬IsSip w.ext.sipPorts p) (hm : ¬IsMedia w.ext p) :
    (processPacket env host F p).run w = (dropPacket p).run w := by
  rw [processPacket, dropPacket]
  dsimp only
  by_cases hlen : (p.bytes.length : ℤ) < 28
  · rw [if_pos hlen, if_pos hlen]
  by_cases hproto : p.mem 9 ≠ 17 ∧ p.mem 9 ≠ 6
  · rw [if_neg hlen, if_pos hproto, if_neg hlen, if_pos hproto]
  have hlength : 28 ≤ p.bytes.length := by omega
  have hprotocol : p.mem 9 = 17 ∨ p.mem 9 = 6 := by
    by_contra hn
    exact hproto (not_or.mp hn)
  have hsip := Bool.eq_false_iff.mpr fun h => hs ⟨hlength, hprotocol, h⟩
  have hrtp := Bool.eq_false_iff.mpr fun h => hm ⟨hlength, hprotocol, hsip, h⟩
  rw [if_neg hlen, if_neg hproto, if_neg hlen, if_neg hproto, run_bind_ok (setGlobals_run _ _),
    run_get_bind]
  dsimp only
  rw [hsip, hrtp]
  rfl

/-- At most the flags of the kind change. -/
theorem dropPacket_run (p : Packet) (w : Process) : ∃ r isUdp isSip isRtp,
    (isRtp = true → w.ext.isRtp = true) ∧ (dropPacket p).run w =
      .ok (r, { w with ext := { w.ext with isUdp := isUdp, isSip := isSip, isRtp := isRtp } }) := by
  rw [dropPacket]
  split_ifs
  · exact ⟨_, w.ext.isUdp, w.ext.isSip, w.ext.isRtp, id, rfl⟩
  · exact ⟨_, w.ext.isUdp, w.ext.isSip, w.ext.isRtp, id, rfl⟩
  · exact ⟨_, _, _, _, fun h => absurd h (by decide), rfl⟩

end Branches

theorem captureHeader_run (buff : Mem) (w : Process) : ∃ header hdset, (captureHeader buff).run w =
    .ok ((), { w with ext := { w.ext with rtpHeader := header, rtpHdset := hdset } }) := by
  rw [captureHeader, setGlobals_run]
  split_ifs
  · exact ⟨_, _, rfl⟩
  · exact ⟨w.ext.rtpHeader, w.ext.rtpHdset, rfl⟩

/-! ## The branches in parts -/

section Parts
variable (env : Env) (host : Host) (F : Functors Globals)

/-- The SIP branch between the text and the capture of the header. -/
def parseAndForward (packet : ℕ) (buff : Mem) (bytesRead : ℤ) (inward : Bool) : Op (Mem × ℤ) := do
  let offset := transportAt buff + 8
  let parseresult ← parseSip env host F (buff.read offset (bytesRead - offset).toNat) inward
  if (← get).ext.outAddr.port ≠ 0 ∧ 0 ≤ parseresult then do
    let buff ← forwardSip env packet buff bytesRead inward
    return (buff, offset - 8)
  else return (buff, offset)

/-- A SIP packet sets the stored header only if there is none. -/
def captureSipHeader (buff : Mem) : Op Unit :=
  setGlobals fun g =>
    if g.rtpHdset = 0 then
      { g with rtpHeader := g.rtpHeader.write 0 (buff.read 0 28), rtpHdset := 1 }
    else g

theorem handleSip_eq (packet : ℕ) (buff : Mem) (bytesRead : ℤ) (inward : Bool) :
    handleSip env host F packet buff bytesRead inward =
      if bytesRead < transportAt buff + 8 then throw .lengthError
      else do
        let r ← parseAndForward env host F packet buff bytesRead inward
        captureSipHeader r.1
        return r := by
  simp only [handleSip, parseAndForward, captureSipHeader, bind_assoc]

/-- The inbound branch up to the capture of the header. -/
def receiveSignal (buff : Mem) (bytesRead : ℤ) : Op Unit := do
  setGlobals fun g => { g with rtpDest := saddr buff, recvCount := g.recvCount + 1 }
  if isSignalingBuffer (buff.shift 28) = 1 then
    let _ ← processReceivedData env F (buff.shift 28) (bytesRead - 28)
  else pure ()

/-- The inbound branch up to the start of a session. -/
def announce (buff : Mem) (bytesRead : ℤ) : Op Unit := do
  receiveSignal env F buff bytesRead
  captureHeader buff

/-- A session is started by some packets. -/
def startIf (starts : Globals → Bool) : Op Unit := do
  if starts (← get).ext then tryStart env F else pure ()

/-- The rest of a branch up to its common end. -/
def startAndConvert (starts : Globals → Bool) (convert : Op (Mem × ℤ)) (r : Mem × ℤ) :
    Op (Mem × ℤ) := do
  startIf env F starts
  if (← get).ext.applySrpp then convert else return r

theorem prepareInbound_eq (packet : ℕ) (buff : Mem) (bytesRead : ℤ) (source : BitVec 16) :
    prepareInbound env F packet buff bytesRead source = (do
      announce env F buff bytesRead
      startAndConvert env F (startsInbound · source) (convertInbound env packet buff bytesRead)
        (buff, bytesRead)) := by
  simp only [prepareInbound, announce, receiveSignal, startIf, startAndConvert, bind_assoc]

theorem prepareOutbound_eq (packet : ℕ) (buff : Mem) (bytesRead : ℤ) :
    prepareOutbound env F packet buff bytesRead = (do
      setGlobals fun g => { g with sentCount := g.sentCount + 1 }
      startAndConvert env F startsOutbound (convertOutboundOp env packet buff bytesRead)
        (buff, bytesRead)) := by
  simp only [prepareOutbound, startIf, startAndConvert, bind_assoc]

/-- The state in which the outbound packet of a buffer may start a session. -/
def sending (buff : Mem) (w : Process) : Process :=
  { w with ext := { w.ext with rtpSrc := saddr buff, sentCount := w.ext.sentCount + 1 } }

/-- The state in which an outbound packet may start one, for a packet that is no SIP. -/
def leaving (w : Process) (p : Packet) : Process := sending p.mem (enterRtp w p)

variable {env F} in
theorem startIf_idle {starts : Globals → Bool} {w : Process} (h : starts w.ext = false) :
    (startIf env F starts).run w = .ok ((), w) := by
  rw [startIf, run_get_bind, if_neg (by rw [h]; decide)]
  rfl

end Parts

/-! ## Conversion -/

section Conversion
variable {env : Env} {w w' : Process}

/-- The conversion of a packet, taken apart. -/
theorem convertOutboundOp_ok {packet : ℕ} {buff buff' : Mem} {bytesRead n : ℤ}
    (h : (convertOutboundOp env packet buff bytesRead).run w = .ok ((buff', n), w')) :
    ∃ rtp data msg l ssrc key srppBuff filler,
      outboundPayload w.ext.isSrtp buff bytesRead = .ok data ∧
      (rtpToSrppOp env rtp data).run w.lib = .ok (msg, l) ∧
      placeOutbound msg buff key srppBuff filler = .ok (buff', n) ∧
      w' = ⟨l.ticked, { w.ext with
          inputPacketSizes := w.ext.inputPacketSizes ++ [bytesRead], ssrcValue := ssrc, srppMsg := msg },
        .converted packet :: w.log⟩ := by
  rw [convertOutboundOp, run_bind_ok (observe_run _ _), encodeOutbound,
    run_bind_ok (setGlobals_run _ _), run_bind_ok (setGlobals_run _ _), run_get_bind] at h
  rcases run_bind_eq_ok h with ⟨data, _, hlift, h⟩
  rcases run_lift_eq_ok hlift with ⟨hdata, rfl⟩
  rcases run_bind_eq_ok h with ⟨msg, _, hmsg, h⟩
  rcases onLib_eq_ok hmsg with ⟨l, hl, rfl⟩
  rw [run_bind_ok (setGlobals_run _ _), run_bind_ok (onLib_run rfl), run_get_bind] at h
  rcases run_lift_eq_ok h with ⟨hplace, rfl⟩
  -- the source of the stream is noted with the first packet
  dsimp only at hdata hplace hl ⊢
  by_cases hs : w.ext.ssrcValue = 0
  · rw [if_pos hs] at hdata ⊢
    exact ⟨_, _, _, _, _, _, _, _, hdata, hl, hplace, rfl⟩
  · rw [if_neg hs] at hdata ⊢
    exact ⟨_, _, _, _, _, _, _, _, hdata, hl, hplace, rfl⟩

theorem convertOutboundOp_size {packet : ℕ} {buff : Mem} {bytesRead : ℤ} {r : Mem × ℤ}
    (h : (convertOutboundOp env packet buff bytesRead).run w = .ok (r, w')) : 120 ≤ r.2 := by
  obtain ⟨_, _, msg, _, _, _, _, _, -, -, hplace, -⟩ := convertOutboundOp_ok h
  rcases placeOutbound_ok hplace with ⟨_, -, -, hn⟩
  have hsize := srppSize_ge msg
  omega

/-- A packet that came from a buffer still has its first 28 bytes. -/
def KeepsHeaders (buff : Mem) (r : Mem × ℤ) : Prop := AgreesOn r.1 buff 0 28 ∧ 28 ≤ r.2

section Headers
variable {F : Functors Globals} {packet : ℕ} {buff : Mem} {n : ℤ} {r : Mem × ℤ}

theorem convertOutboundOp_headers (h : (convertOutboundOp env packet buff n).run w = .ok (r, w')) :
    KeepsHeaders buff r := by
  have hsize := convertOutboundOp_size h
  obtain ⟨_, _, msg, _, _, _, _, _, -, -, hplace, -⟩ := convertOutboundOp_ok h
  rcases placeOutbound_ok hplace with ⟨wire, -, hbuff, -⟩
  refine ⟨?_, by omega⟩
  rw [hbuff]
  exact write_agreesOn (.inl le_rfl)

variable (hn : 28 ≤ n)
include hn

theorem convertInbound_headers (h : (convertInbound env packet buff n).run w = .ok (r, w')) :
    KeepsHeaders buff r := by
  rw [convertInbound, run_bind_ok (observe_run _ _), decodeInbound] at h
  rcases run_bind_eq_ok h with ⟨_, _, -, h⟩
  rw [run_get_bind] at h
  rcases run_bind_eq_ok h with ⟨⟨msg, buff', n'⟩, u, hlift, h⟩
  rw [run_bind_ok (setGlobals_run _ _)] at h
  cases h
  split_ifs at hlift
  · exact convertInboundRtp_frame hn (run_lift_eq_ok hlift).1
  · exact convertInboundSrtp_frame hn (run_lift_eq_ok hlift).1

theorem startAndConvert_headers {starts : Globals → Bool} {convert : Op (Mem × ℤ)}
    (hconvert : ∀ u, convert.run u = .ok (r, w') → KeepsHeaders buff r)
    (h : (startAndConvert env F starts convert (buff, n)).run w = .ok (r, w')) :
    KeepsHeaders buff r := by
  rcases run_bind_eq_ok h with ⟨_, u, -, h⟩
  rw [run_get_bind] at h
  split_ifs at h
  · exact hconvert u h
  · cases h
    exact ⟨.refl, hn⟩

theorem prepareInbound_headers {source : BitVec 16}
    (h : (prepareInbound env F packet buff n source).run w = .ok (r, w')) : KeepsHeaders buff r := by
  rw [prepareInbound_eq] at h
  rcases run_bind_eq_ok h with ⟨_, u, -, h⟩
  exact startAndConvert_headers hn (fun _ => convertInbound_headers hn) h

theorem prepareOutbound_headers
    (h : (prepareOutbound env F packet buff n).run w = .ok (r, w')) : KeepsHeaders buff r := by
  rw [prepareOutbound_eq, run_bind_ok (setGlobals_run _ _)] at h
  exact startAndConvert_headers hn (fun _ => convertOutboundOp_headers) h

end Headers

end Conversion

/-! ## The common end -/

section Forwarding
variable (env : Env) (packet : ℕ) (buff : Mem) (w : Process)

/-- What `send_raw_message` gives to the socket. -/
def rawEvents (a : SockAddr) (length : ℤ) : List Event :=
  if a.port = 0 ∨ length ≤ 0 then [] else [.rawMessage packet ⟨a.addr, a.port, buff.read 0 length.toNat⟩]

theorem sendRawMessage_run (length : ℤ) : ∃ r, (sendRawMessage packet buff length).run w =
    .ok (r, { w with log := rawEvents packet buff w.ext.outAddr length ++ w.log }) := by
  rw [sendRawMessage, run_get_bind]
  dsimp only
  unfold rawEvents
  by_cases hport : w.ext.outAddr.port = 0
  · rw [if_pos hport, if_pos (Or.inl hport)]
    exact ⟨_, rfl⟩
  · by_cases hlen : length ≤ 0
    · rw [if_neg hport, if_pos hlen, if_pos (Or.inr hlen)]
      exact ⟨_, rfl⟩
    · rw [if_neg hport, if_neg hlen, if_neg (not_or.mpr ⟨hport, hlen⟩)]
      exact ⟨_, rfl⟩

/-- A packet that fits is sent in one piece. -/
theorem forward_fits {bytesRead : ℤ} (h : bytesRead ≤ ipMtu) :
    (forward env packet buff bytesRead).run w = .ok (formChecksums buff, { w with
      log := rawEvents packet (formChecksums buff) w.ext.outAddr bytesRead ++
        .handedOver packet :: w.log }) := by
  obtain ⟨_, hsend⟩ := sendRawMessage_run packet (formChecksums buff)
    { w with log := .handedOver packet :: w.log } bytesRead
  rw [forward, run_bind_ok (observe_run _ _), if_neg (not_lt.mpr h)]
  dsimp only
  rw [run_bind_ok hsend]
  rfl

/-- Two messages in a row, the second built over fresh memory. -/
theorem sendRawMessage_twice (first : Mem) (second : ℕ → Mem) (n m : ℤ) :
    (do
      let _ ← sendRawMessage packet first n
      let t ← onLib nextTick
      let _ ← sendRawMessage packet (second t) m
      return first : Op Mem).run w = .ok (first, ⟨w.lib.ticked, w.ext,
        rawEvents packet (second w.lib.tick) w.ext.outAddr m ++
          rawEvents packet first w.ext.outAddr n ++ w.log⟩) := by
  rcases sendRawMessage_run packet first w n with ⟨_, hfirst⟩
  let u : Process :=
    { w with lib := w.lib.ticked, log := rawEvents packet first w.ext.outAddr n ++ w.log }
  obtain ⟨_, hsecond⟩ := sendRawMessage_run packet (second w.lib.tick) u m
  have htick : (onLib nextTick : Op ℕ).run
      { w with log := rawEvents packet first w.ext.outAddr n ++ w.log } = .ok (w.lib.tick, u) := rfl
  rw [run_bind_ok hfirst, run_bind_ok htick, run_bind_ok hsecond, List.append_assoc]
  rfl

/-- The second fragment of a packet of the given size, in a given state. -/
def tailFragment (bytesRead : ℤ) : Mem :=
  secondFragment (env.junk w.lib.tick) (firstFragment w.ext.fragId buff) (bytesRead - ipMtu).toNat

/-- The two fragments, each given to the raw socket. -/
theorem sendFragmentedMessage_run (bytesRead : ℤ) :
    (sendFragmentedMessage env packet buff bytesRead).run w =
      .ok (firstFragment w.ext.fragId buff,
        ⟨w.lib.ticked, { w.ext with fragId := w.ext.fragId + 1 },
          rawEvents packet (tailFragment env buff w bytesRead) w.ext.outAddr
              ((bytesRead - ipMtu).toNat + 20) ++
            rawEvents packet (firstFragment w.ext.fragId buff) w.ext.outAddr ipMtu ++
            .fragmented packet :: w.log⟩) := by
  have hrun := sendRawMessage_twice packet
    ⟨w.lib, { w.ext with fragId := w.ext.fragId + 1 }, .fragmented packet :: w.log⟩
    (firstFragment w.ext.fragId buff)
    (fun t => secondFragment (env.junk t) (firstFragment w.ext.fragId buff) (bytesRead - ipMtu).toNat)
    ipMtu ((bytesRead - ipMtu).toNat + 20)
  rw [sendFragmentedMessage, run_get_bind]
  dsimp only
  rw [run_bind_ok (setGlobals_run _ _), run_bind_ok (observe_run _ _)]
  exact hrun

/-- A forwarded packet leaves one datagram in the log, or two fragments. -/
theorem forward_cases {env : Env} {packet : ℕ} {buff buff' : Mem} {w w' : Process} {bytesRead : ℤ}
    (h : (forward env packet buff bytesRead).run w = .ok (buff', w')) :
    (∃ t n, w'.lib = { w.lib with tick := t } ∧ w'.ext = { w.ext with fragId := n }) ∧
      (w'.log = rawEvents packet (formChecksums buff) w.ext.outAddr bytesRead ++
          .handedOver packet :: w.log ∨
        ∃ b n, w'.log = rawEvents packet b w.ext.outAddr n ++
          rawEvents packet (firstFragment w.ext.fragId buff) w.ext.outAddr ipMtu ++
          .fragmented packet :: .handedOver packet :: w.log) := by
  by_cases hfits : bytesRead ≤ ipMtu
  · have heq := h.symm.trans (forward_fits env packet buff w hfits)
    cases heq
    exact ⟨⟨w.lib.tick, w.ext.fragId, rfl, rfl⟩, .inl rfl⟩
  · have hrun : (forward env packet buff bytesRead).run w =
        (sendFragmentedMessage env packet buff bytesRead).run
          { w with log := .handedOver packet :: w.log } := by
      rw [forward, run_bind_ok (observe_run _ _), if_pos (not_le.mp hfits)]
    have heq := h.symm.trans (hrun.trans (sendFragmentedMessage_run env packet buff _ bytesRead))
    cases heq
    exact ⟨⟨w.lib.tick + 1, w.ext.fragId + 1, rfl, rfl⟩, .inr ⟨_, _, rfl⟩⟩

/-- Forwarding always returns, and keeps the addresses. -/
theorem forward_run (bytesRead : ℤ) : ∃ buff' lib n events,
    (forward env packet buff bytesRead).run w =
      .ok (buff', ⟨lib, { w.ext with fragId := n }, events ++ .handedOver packet :: w.log⟩) := by
  by_cases h : bytesRead ≤ ipMtu
  · exact ⟨_, _, w.ext.fragId, _, forward_fits env packet buff w h⟩
  · have hrun := sendFragmentedMessage_run env packet buff
      { w with log := .handedOver packet :: w.log } bytesRead
    rw [List.append_cons] at hrun
    have hf : (forward env packet buff bytesRead).run w =
        (sendFragmentedMessage env packet buff bytesRead).run
          { w with log := .handedOver packet :: w.log } := by
      rw [forward, run_bind_ok (observe_run _ _), if_pos (not_le.mp h)]
    exact ⟨_, _, w.ext.fragId + 1, _, hf.trans hrun⟩

end Forwarding

end Sqrkal.Discovery
