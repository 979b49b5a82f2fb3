import Sqrkal.Discovery.Sip
import Sqrkal.Library.Burst

/-! # Processing packets

`process_packet` and its two callers: the main loop, and the receive functor
through which a handler reads the next packet while an earlier one is still being
processed. The functor is given by its depth of nesting; at depth zero a read
times out.
-/

namespace Sqrkal.Discovery
open Foundation Message Library

variable (env : Env) (host : Host) (F : Functors Globals)

/-- `start_SRPP`: the status of `start_session` is only printed. -/
def startSrpp : Op ℤ := do
  let _ ← startSession env F
  if !(← get).lib.flags.signalingComplete then
    setLib fun l => { l with srppEnabled := 0 }
    let _ ← stopSession env F
    observe (.started (-1))
    return -1
  else
    setLib fun l => { l with srppEnabled := 1 }
    let g := (← get).ext
    setLib fun l => { l with
      lastSequenceNo := (htons (RTPHeader.load g.rtpHeader 28).seq).toNat }
    observe (.started 0)
    return 0

/-- SRPP is applied from now on, if it can be started. -/
def tryStart : Op Unit := do
  if 0 ≤ (← startSrpp env F) then setGlobals fun g => { g with applySrpp := true } else pure ()

/-- The port lookup. Its loop body increments the index a second time. -/
def matchesPort (source destination : BitVec 16) : List ℤ → Bool
  | [] => false
  | [p] => p = source.toNat || p = destination.toNat
  | p :: _ :: ports =>
    p = source.toNat || p = destination.toNat || matchesPort source destination ports

/-- The stored header is set from the first media packet. The test of its byte 29 is
`& (0x80 != 0x80)` and never holds. -/
def captureHeader (buff : Mem) : Op Unit :=
  setGlobals fun g =>
    if g.rtpHdset = 0 ∨ g.rtpHdset = 1 then
      { g with rtpHeader := g.rtpHeader.write 0 (buff.read 0 40), rtpHdset := 2 }
    else g

def loopback : BitVec 32 := inetAddr (text "127.0.0.1")

/-! ## SIP -/

/-- Forwarding of a parsed SIP packet. -/
def forwardSip (packet : ℕ) (buff : Mem) (bytesRead : ℤ) (inward : Bool) : Op Mem := do
  (if inward then setGlobals fun g => { g with outAddr := { g.outAddr with addr := loopback } }
   else pure ())
  let g := (← get).ext
  let udp := transportAt buff
  let buff := buff.store16 udp (htonsInt 5060)
  let buff := buff.store16 (udp + 2) g.outAddr.port
  let buff := setTtl (setDaddr buff g.outAddr.addr) g.srppTtl
  let buff ← forward env packet buff bytesRead
  (if inward then setGlobals fun g => { g with outAddr := { g.outAddr with addr := saddr buff } }
   else pure ())
  return buff

/-- The SIP branch, with the buffer and the offset it leaves behind: the offset is set
back only when the packet is forwarded. -/
def handleSip (packet : ℕ) (buff : Mem) (bytesRead : ℤ) (inward : Bool) : Op (Mem × ℤ) := do
  let offset := transportAt buff + 8
  if bytesRead < offset then throw .lengthError
  else
    let str := buff.read offset (bytesRead - offset).toNat
    let parseresult ← parseSip env host F str inward
    let (buff, offset) ← (if (← get).ext.outAddr.port ≠ 0 ∧ 0 ≤ parseresult then do
        let buff ← forwardSip env packet buff bytesRead inward
        return (buff, offset - 8)
      else return (buff, offset))
    setGlobals fun g =>
      if g.rtpHdset = 0 then
        { g with rtpHeader := g.rtpHeader.write 0 (buff.read 0 28), rtpHdset := 1 }
      else g
    return (buff, offset)

/-! ## RTP coming in -/

/-- The conversion back to RTP or SRTP. -/
def decodeInbound (buff : Mem) (bytesRead : ℤ) : Op (Mem × ℤ) := do
  let t ← onLib nextTick
  let w ← get
  let key := w.lib.session.encryptionKey
  let junk := env.junk t
  let (msg, buff, bytesRead) ← (if !w.ext.isSrtp then
      -- the constructor's fields are overwritten, its payload is not
      let new := RTPMessage.new (junk.load16 0) (fun i => junk.load32 (12 + 4 * (i : ℕ))) junk
      liftM (convertInboundRtp w.ext.srppMsg buff bytesRead key new junk)
    else liftM (convertInboundSrtp w.ext.srppMsg buff bytesRead key junk))
  setGlobals fun g => { g with srppMsg := msg }
  return (buff, bytesRead)

/-- The `apply_srpp` branch for a packet coming in. -/
def convertInbound (packet : ℕ) (buff : Mem) (bytesRead : ℤ) : Op (Mem × ℤ) := do
  observe (.converted packet)
  decodeInbound env buff bytesRead

/-- The headers of a packet that goes to the local endpoint. -/
def addressInbound (g : Globals) (buff : Mem) (bytesRead offset : ℤ) : Mem :=
  let buff := buff.store16 (offset + 2) (htonsInt g.inport)
  let buff := setDaddr buff (if g.rtpSrc = 0 then loopback else g.rtpSrc)
  let buff := buff.store16 (offset + 4) (htonsInt (bytesRead - 20))
  setTtl (setTotLen buff (htonsInt bytesRead)) g.srppTtl

/-- The common end of the inbound branch. -/
def deliverInbound (packet : ℕ) (buff : Mem) (bytesRead offset : ℤ) : Op Unit := do
  let g := (← get).ext
  let buff := addressInbound g buff bytesRead offset
  setGlobals fun g => { g with outAddr := ⟨daddr buff, htonsInt g.inport⟩ }
  let _ ← forward env packet buff bytesRead

/-- Whether an inbound packet makes `process_packet` start a session. -/
def startsInbound (g : Globals) (source : BitVec 16) : Bool :=
  (g.outport ≠ source.toNat && !g.applySrpp) || (g.recvCount = 1 && g.sentCount < 5)

/-- The inbound branch up to its common end: signalling, header capture, session start
and conversion. -/
def prepareInbound (packet : ℕ) (buff : Mem) (bytesRead : ℤ) (source : BitVec 16) :
    Op (Mem × ℤ) := do
  setGlobals fun g => { g with rtpDest := saddr buff, recvCount := g.recvCount + 1 }
  (if isSignalingBuffer (buff.shift 28) = 1 then do
      let _ ← processReceivedData env F (buff.shift 28) (bytesRead - 28)
   else pure ())
  captureHeader buff
  (if startsInbound (← get).ext source then tryStart env F else pure ())
  if (← get).ext.applySrpp then convertInbound env packet buff bytesRead
  else return (buff, bytesRead)

def inboundRtp (packet : ℕ) (buff : Mem) (bytesRead offset : ℤ) (source : BitVec 16) : Op Unit := do
  let (buff, bytesRead) ← prepareInbound env F packet buff bytesRead source
  deliverInbound env packet buff bytesRead offset

/-! ## RTP going out -/

/-- The conversion to SRPP. -/
def encodeOutbound (buff : Mem) (bytesRead : ℤ) : Op (Mem × ℤ) := do
  setGlobals fun g => { g with inputPacketSizes := g.inputPacketSizes ++ [bytesRead] }
  let rtp := RTPHeader.load buff 28
  setGlobals fun g => if g.ssrcValue = 0 then { g with ssrcValue := rtp.ssrc } else g
  let data ← liftM (outboundPayload (← get).ext.isSrtp buff bytesRead)
  let msg ← onLib (rtpToSrppOp env rtp data)
  setGlobals fun g => { g with srppMsg := msg }
  let (srppBuff, filler) ← onLib (scratch env)
  liftM (placeOutbound msg buff (← get).lib.session.encryptionKey srppBuff filler)

/-- The `apply_srpp` branch for a packet going out. -/
def convertOutboundOp (packet : ℕ) (buff : Mem) (bytesRead : ℤ) : Op (Mem × ℤ) := do
  observe (.converted packet)
  encodeOutbound env buff bytesRead

/-- The headers of a packet that goes to the other endpoint. -/
def addressOutbound (g : Globals) (buff : Mem) (bytesRead offset : ℤ) : Mem :=
  let buff := buff.store16 (offset + 2) (htonsInt g.outport)
  let buff := setDaddr buff g.rtpDest
  let buff := buff.store16 (offset + 4) (htonsInt (bytesRead - 20))
  setTtl (setTotLen buff (htonsInt bytesRead)) g.srppTtl

/-- The common end of the outbound branch. -/
def deliverOutbound (packet : ℕ) (buff : Mem) (bytesRead offset : ℤ) : Op Unit := do
  setGlobals fun g => { g with outputPacketSizes := g.outputPacketSizes ++ [bytesRead] }
  let buff := addressOutbound (← get).ext buff bytesRead offset
  captureHeader buff
  setGlobals fun g => { g with outAddr := ⟨g.rtpDest, htonsInt g.outport⟩ }
  let _ ← forward env packet buff bytesRead

/-- Whether an outbound packet makes `process_packet` start a session. -/
def startsOutbound (g : Globals) : Bool := !g.applySrpp && g.sentCount = 1 && 0 < g.rtpHdset

/-- The outbound branch up to its common end: session start and conversion. -/
def prepareOutbound (packet : ℕ) (buff : Mem) (bytesRead : ℤ) : Op (Mem × ℤ) := do
  setGlobals fun g => { g with sentCount := g.sentCount + 1 }
  (if startsOutbound (← get).ext then tryStart env F else pure ())
  if (← get).ext.applySrpp then convertOutboundOp env packet buff bytesRead
  else return (buff, bytesRead)

def outboundRtp (packet : ℕ) (buff : Mem) (bytesRead offset : ℤ) : Op (Option ℤ) := do
  setGlobals fun g => { g with rtpSrc := saddr buff }
  let g := (← get).ext
  if g.outport = 0 ∨ g.rtpDest = 0 then return some 0
  else
    let (buff, bytesRead) ← prepareOutbound env F packet buff bytesRead
    deliverOutbound env packet buff bytesRead offset
    return none

/-! ## The whole function -/

/-- `process_packet`; `none` where it ends without a value. The flags `is_sip` and `is_rtp`
are globals, and the second is read again after the SIP branch. -/
def processPacket (p : Packet) : Op (Option ℤ) := do
  let buff := p.mem
  let bytesRead : ℤ := p.bytes.length
  if bytesRead < 28 then return some (-1)
  else if buff 9 ≠ 17 ∧ buff 9 ≠ 6 then return some 0
  else
    let offset := transportAt buff
    let source := htons (buff.load16 offset)
    let destination := htons (buff.load16 (offset + 2))
    let inward := !host.addresses.contains (saddr buff)
    setGlobals fun g =>
      let isSip := matchesPort source destination g.sipPorts
      { g with
        isUdp := buff 9 = 17, isSip := isSip
        isRtp := !isSip && matchesPort source destination g.rtpPorts }
    let g := (← get).ext
    if !g.isSip && !g.isRtp then return some 0
    else
      let (buff, offset) ← (if g.isSip then handleSip env host F p.id buff bytesRead inward
        else pure (buff, offset))
      if (← get).ext.isRtp then
        if inward then
          inboundRtp env F p.id buff bytesRead offset source
          return none
        else outboundRtp env F p.id buff bytesRead offset
      else return none

/-- The next packet of the queue, if there is one in time. -/
def readQueue : Op (Option Packet) := do
  match (← get).ext.queue with
  | [] => return none
  | p :: rest =>
    setGlobals fun g => { g with queue := rest }
    return p

/-- The read of the main loop, whose buffer keeps the last message. -/
def readLoop : Op (Option Packet) := do
  setGlobals fun g => { g with held := g.queue.headD g.held }
  readQueue

/-- `receive_rtp_message`, with a program for a packet that is no signalling message. -/
def receiveWith (process : Packet → Op (Option ℤ)) : Op Unit := do
  onLib (unusedMessage env)
  match ← readQueue with
  | none => pure ()
  | some p =>
    if p.bytes = [] then pure ()
    else if isSignalingBuffer (p.mem.shift 28) = 1 then
      let _ ← processReceivedData env F (p.mem.shift 28) (p.bytes.length - 28)
    else
      let _ ← process p

/-- `receive_rtp_message`. -/
def receiveRtpMessage : Op Unit := receiveWith env F (processPacket env host F)

/-- The functors `initialize_srpp` installs, for handlers nested up to a depth. -/
def functors : ℕ → Functors Globals
  | 0 => { send := sendRtpMessage env, receive := onLib (unusedMessage env) }
  | n + 1 => { send := sendRtpMessage env, receive := receiveRtpMessage env host (functors n) }

theorem functors_send (n : ℕ) : (functors env host n).send = sendRtpMessage env := by
  cases n with
  | zero => rfl
  | succ n => rfl

/-- One round of the main loop, with a program for its packet. -/
def roundWith (process : Packet → Op (Option ℤ)) : Op Unit := do
  match ← readLoop with
  | none => pure ()
  | some p =>
    if p.bytes = [] then pure ()
    else
      let _ ← process p

/-- One round of the main loop. -/
def discoverRound (n : ℕ) : Op Unit := roundWith (processPacket env host (functors env host n))

/-- A packet with the number and the size of the one that the buffer of the main loop holds;
`process_packet` has changed bytes of it. -/
def IsHeld (g : Globals) (q : Packet) : Prop :=
  ∃ p, g.held = some p ∧ q.id = p.id ∧ q.bytes.length = p.bytes.length

/-- The state in which the main loop finds a packet in its buffer again. -/
def refilled (w : Process) (q : Packet) : Process :=
  { w with ext := { w.ext with queue := some q :: w.ext.queue } }

end Sqrkal.Discovery
