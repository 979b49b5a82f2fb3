import Sqrkal.Discovery.State

/-! # Sending datagrams

Checksums, the raw socket, fragmentation, and the send functor that wraps a
message of the library in the stored IP, UDP and RTP headers.
-/

namespace Sqrkal.Discovery
open Foundation Message Library

/-! ## Header fields -/

/-- The header length in words, from the low half of the first byte. -/
def ihl (m : Mem) : ℕ := ((m 0).extractLsb' 0 4).toNat

/-- Where the UDP or TCP header starts. -/
def transportAt (m : Mem) : ℤ := 4 * ihl m

def setTotLen (m : Mem) (n : BitVec 16) : Mem := m.store16 2 n

def setTtl (m : Mem) (ttl : ℤ) : Mem := m.write 8 [BitVec.ofInt 8 ttl]

def saddr (m : Mem) : BitVec 32 := m.load32 12

def setSaddr (m : Mem) (a : BitVec 32) : Mem := m.store32 12 a

def daddr (m : Mem) : BitVec 32 := m.load32 16

def setDaddr (m : Mem) (a : BitVec 32) : Mem := m.store32 16 a

/-- A port or length in network order, from an `int`. -/
def htonsInt (n : ℤ) : BitVec 16 := htons (BitVec.ofInt 16 n)

/-! ## Checksums -/

/-- The sum of the words of a buffer, a last odd byte counting as a word. -/
def wordSum (m : Mem) (a : ℤ) : ℕ → ℕ
  | 0 => 0
  | 1 => (m a).toNat
  | n + 2 => (m.load16 a).toNat + wordSum m (a + 2) n

/-- `in_cksum`. -/
def inCksum (m : Mem) (len : ℕ) : BitVec 16 :=
  let sum := wordSum m 0 len
  let sum := sum / 2 ^ 16 + sum % 2 ^ 16
  ~~~BitVec.ofNat 16 (sum + sum / 2 ^ 16)

/-- `form_checksums`: over the first twenty bytes, whatever the header length says. The
UDP checksum is switched off. -/
def formChecksums (m : Mem) : Mem :=
  let udp := transportAt m
  let m := m.store16 10 0
  let m := m.store16 10 (inCksum m 20)
  m.store16 (udp + 6) 0

/-! ## The raw socket -/

/-- `send_raw_message`. -/
def sendRawMessage (packet : ℕ) (buff : Mem) (length : ℤ) : Op ℤ := do
  let a := (← get).ext.outAddr
  if a.port = 0 then return -1
  else if length ≤ 0 then return -1
  else
    observe (.rawMessage packet ⟨a.addr, a.port, buff.read 0 length.toNat⟩)
    return length

/-- The first fragment: the total length is left in host order. -/
def firstFragment (fragId : ℤ) (buff : Mem) : Mem :=
  let buff := buff.store16 4 (htonsInt (15032 + fragId))
  let buff := buff.store16 6 (htonsInt 8192)
  formChecksums (setTotLen buff 1500)

/-- The second fragment, built from the first one and the bytes behind it. -/
def secondFragment (junk buff : Mem) (bytesLeft : ℕ) : Mem :=
  let m := junk.write 0 (buff.read 0 20)
  let m := m.write 20 (buff.read ipMtu bytesLeft)
  let m := m.store16 6 (htonsInt 185)
  formChecksums (setTotLen m (BitVec.ofNat 16 (bytesLeft + 20)))

/-- `send_fragmented_message`: the buffer keeps the header of the first fragment. -/
def sendFragmentedMessage (env : Env) (packet : ℕ) (buff : Mem) (bytesRead : ℤ) : Op Mem := do
  let fragId := (← get).ext.fragId
  setGlobals fun g => { g with fragId := g.fragId + 1 }
  observe (.fragmented packet)
  let buff := firstFragment fragId buff
  let _ ← sendRawMessage packet buff ipMtu
  let t ← onLib nextTick
  let bytesLeft := (bytesRead - ipMtu).toNat
  let _ ← sendRawMessage packet (secondFragment (env.junk t) buff bytesLeft) (bytesLeft + 20)
  return buff

/-- The end of every branch of `process_packet` that forwards its packet, with the
buffer as it leaves it. -/
def forward (env : Env) (packet : ℕ) (buff : Mem) (bytesRead : ℤ) : Op Mem := do
  observe (.handedOver packet)
  if bytesRead > ipMtu then sendFragmentedMessage env packet buff bytesRead
  else
    let buff := formChecksums buff
    let _ ← sendRawMessage packet buff bytesRead
    return buff

/-! ## The send functor -/

/-- The datagram around a message of the library: stored headers, current addresses. -/
def wrapMessage (g : Globals) (junk : Mem) (d : List Byte) : Mem :=
  let m := junk.write 0 (g.rtpHeader.read 0 28)
  let m := m.store16 20 (htonsInt g.inport)
  let m := m.store16 22 (htonsInt g.outport)
  let m := setSaddr (setDaddr m g.rtpDest) g.rtpSrc
  let m := m.store16 24 (htonsInt (d.length + 8))
  let m := setTotLen m (htonsInt (d.length + 28))
  let m := setTtl m g.srppTtl
  m.write 28 d

/-- The RTP header of the media stream in place of the message's own, unless there is
none. A signalling message keeps its payload type. -/
def rewriteHeader (g : Globals) (d : List Byte) (m : Mem) : Mem :=
  if g.rtpHdset = 2 ∧ (RTPHeader.load g.rtpHeader 28).version ≠ 0 then
    let m := m.write 28 (g.rtpHeader.read 28 12)
    if d.getD 1 0 = 0x7c then m.write 29 [0x7c] else m
  else m

/-- The stored header moves on: the counter's sequence number, twenty more on the clock. -/
def advanceHeader (lastSequenceNo : ℤ) (g : Globals) : Globals :=
  let h := g.rtpHeader.store16 30 (htonsInt lastSequenceNo)
  let h := h.store32 32 (htonl (htonl (h.load32 32) + 20))
  { g with rtpHeader := if g.ssrcValue ≠ 0 then h.store32 36 (htonl g.ssrcValue) else h }

/-- `send_rtp_message`. -/
def sendRtpMessage (env : Env) (d : List Byte) : Op ℤ := do
  if d = [] then return -1
  else
    let t ← onLib nextTick
    let w ← get
    if w.ext.rtpHdset = 0 then throw .exited
    else
      let point := rewriteHeader w.ext d (wrapMessage w.ext (env.junk t) d)
      setGlobals (advanceHeader w.lib.lastSequenceNo)
      setGlobals fun g => { g with outAddr := ⟨g.rtpDest, htonsInt g.outport⟩ }
      let g := (← get).ext
      observe (.rtpMessage ⟨g.outAddr.addr, g.outAddr.port,
        (formChecksums point).read 0 (d.length + 28)⟩)
      return d.length + 28

end Sqrkal.Discovery
