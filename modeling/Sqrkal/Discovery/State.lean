import Sqrkal.Foundation.Search
import Sqrkal.Library.Signaling

/-! # The state of the discovery process

The globals of `sqrkal_discovery.cpp`, the packet filter it programs, the queue it
reads, and the packet that the buffer of its main loop holds. A packet is the memory
from its first byte on, so that a read past its end finds what the buffer held before.
-/

namespace Sqrkal.Discovery
open Foundation Message Library

/-- `IP_MTU`. -/
def ipMtu : ℤ := 1500

/-- The machine: its interface addresses, name resolution, and the width of `size_t`. -/
structure Host where
  addresses : List (BitVec 32)
  resolve : List Byte → Option (BitVec 32)
  sizeBits : ℕ

/-- A queued packet, numbered, with the memory behind it. -/
structure Packet where
  id : ℕ
  bytes : List Byte
  rest : Mem

def Packet.mem (p : Packet) : Mem := p.rest.around p.bytes

/-- The part of `sockaddr_in` in use, in network order. -/
structure SockAddr where
  addr : BitVec 32 := 0
  port : BitVec 16 := 0
deriving DecidableEq

inductive Chain where
  | input
  | output
deriving DecidableEq

inductive PortMatch where
  | destination (port : ℤ)
  | source (port : ℤ)
deriving DecidableEq

/-- A rule that sends packets of another time to live to the queue. -/
structure Rule where
  chain : Chain
  isUdp : Bool
  ports : PortMatch
  ttl : ℤ
deriving DecidableEq

structure Globals where
  udpAdded : Bool := false
  tcpAdded : Bool := false
  rtpAdded : Bool := false
  isDiscovering : Bool := false
  isSip : Bool := false
  isRtp : Bool := false
  isUdp : Bool := false
  isSrtp : Bool := false
  isSrpp : Bool := false
  applySrpp : Bool := false
  isSessionOn : Bool := false
  inport : ℤ := 0
  outport : ℤ := 0
  sawInviteAlready : Bool := false
  sawByeAlready : Bool := false
  sentInvite : Bool := false
  sawAck : Bool := false
  saw200ok : Bool := false
  recvCount : ℤ := 0
  sentCount : ℤ := 0
  sipPorts : List ℤ := [5060]
  rtpPorts : List ℤ := [5000]
  outAddr : SockAddr := {}
  lastOutDest : BitVec 32 := 0
  rtpDest : BitVec 32 := 0
  rtpSrc : BitVec 32 := 0
  rtpHeader : Mem := fun _ => 0
  rtpHdset : ℕ := 0
  fragId : ℤ := 0
  srppTtl : ℤ := 65
  ssrcValue : BitVec 32 := 0
  srppMsg : SRPPMessage
  inputPacketSizes : List ℤ := []
  outputPacketSizes : List ℤ := []
  sizesTxt : List (ℤ × Option ℤ) := []
  firewall : List Rule := []
  queue : List (Option Packet) := []
  held : Option Packet := none

abbrev Process := World Globals

abbrev Op (α : Type) := World.Op Globals α

def setGlobals (f : Globals → Globals) : Op Unit := modify fun w => { w with ext := f w.ext }

theorem setGlobals_run (f : Globals → Globals) (w : Process) :
    (setGlobals f).run w = .ok ((), { w with ext := f w.ext }) := rfl

/-- An `unsigned int`. -/
def toUint (n : ℤ) : ℕ := (n % 2 ^ 32).toNat

/-! ## The packet filter

`iptables -A` appends a rule, `-D` removes the first equal one and fails without
it, and `-F` removes all rules.
-/

def appendRule (r : Rule) : Op ℤ := do
  setGlobals fun g => { g with firewall := g.firewall ++ [r] }
  return 0

def deleteRule (r : Rule) : Op ℤ := do
  if r ∈ (← get).ext.firewall then
    setGlobals fun g => { g with firewall := g.firewall.erase r }
    return 0
  else return 1

def changeRule (isAdding : Bool) (r : Rule) : Op ℤ := if isAdding then appendRule r else deleteRule r

/-- The two rules of `add_all_rules` or `add_all_rtp_rules`: when the second cannot be
added, the first is taken back. -/
def changeRules (isAdding : Bool) (inward outward : Rule) (done : Globals → Globals) : Op ℤ := do
  if (← changeRule isAdding inward) ≠ 0 ∧ isAdding then return -1
  else if (← changeRule isAdding outward) ≠ 0 ∧ isAdding then
    let _ ← deleteRule inward
    return -1
  else
    setGlobals done
    return 0

def addAllRules (isAdding isUdp : Bool) : Op ℤ := do
  let g := (← get).ext
  if isAdding && (g.udpAdded && isUdp || g.tcpAdded && !isUdp) then return 0
  else
    (if isAdding then setGlobals fun g => { g with firewall := [] } else pure ())
    changeRules isAdding ⟨.input, isUdp, .destination 5060, g.srppTtl⟩
      ⟨.output, isUdp, .destination 5060, g.srppTtl⟩ fun g =>
        if isUdp then { g with udpAdded := isAdding } else { g with tcpAdded := isAdding }

def addAllRtpRules (isAdding isUdp : Bool) : Op ℤ := do
  let g := (← get).ext
  if isAdding && g.rtpAdded then return 0
  else
    changeRules isAdding ⟨.input, isUdp, .destination g.inport, g.srppTtl⟩
      ⟨.output, isUdp, .source g.inport, g.srppTtl⟩ fun g => { g with rtpAdded := isAdding }

end Sqrkal.Discovery
