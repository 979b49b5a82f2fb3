import Sqrkal.Library.State

/-! # Packet size padding and the dummy cache

`Padding_functions.cpp` and the packet size part of `Padding_Algorithms.cpp`.
The cache has a hundred entries, of which the drawn indices reach ninety-nine.
-/

namespace Sqrkal.Library
open Foundation Message

variable (env : Env)

/-- `srpp_rand(0, MAXDUMMYCACHESIZE)`. -/
def cacheIndex : Lib.Op (Fin 100) := do return Fin.ofNat 100 (← rand env 0 99).toNat

def setPadding (f : Padding → Padding) : Lib.Op Unit :=
  modify fun l => { l with padding := f l.padding }

def setEntry (i : Fin 100) (msg : SRPPMessage) : Lib.Op Unit :=
  setPadding fun p => { p with dummyCache := Function.update p.dummyCache i msg }

/-- Characters exclusive-ored with some random number. -/
def randomBytes : ℕ → Lib.Op (List Byte)
  | 0 => pure []
  | n + 1 => do
    let a ← rand env 1 255
    let b ← rand env 0 65536
    let bs ← randomBytes n
    return (BitVec.ofInt 8 a ^^^ BitVec.ofInt 8 b) :: bs

/-- Every byte exclusive-ored with some random number. -/
def scramble : List Byte → Lib.Op (List Byte)
  | [] => pure []
  | b :: bs => do
    let r ← rand env 0 65536
    let bs ← scramble bs
    return (b ^^^ BitVec.ofInt 8 r) :: bs

/-- One entry of the cache as the constructor fills it. -/
def initialDummy : Lib.Op SRPPMessage := do
  let msg := SRPPMessage.new (← nextFresh env)
  let size ← rand env 1 (← get).maxpacketsize
  let bytes ← randomBytes env size.toNat
  return { msg with
    encryptedPart := { msg.encryptedPart with originalPayload := bytes, dummyFlag := 1 } }

/-- The constructor `PaddingFunctions()`: entries `0` to `n - 1`. -/
def initCache : ℕ → Lib.Op Unit
  | 0 => pure ()
  | n + 1 => do
    initCache n
    setEntry (Fin.ofNat 100 n) (← initialDummy env)

/-- `init_SRPP`. -/
def initSrpp : Lib.Op Unit := initCache env 99

/-- `set_options`. -/
def setOptions (i : ℤ) : Lib.Op Unit :=
  setPadding fun p =>
    if i = 1 then { p with isFullBandwidth := true }
    else if i = 2 then { p with isBurstPadding := true }
    else if i = 3 then { p with gradualAscentBandwidth := true }
    else if i = 4 then { p with isMinBinPadding := true }
    else if i = 5 then { p with isSmallPerturbation := true }
    else p

/-- A message cut to a size: padding goes first, and all of it once the payload is cut. -/
def cutTo (size : ℤ) (e : SRPPEncrypted) : SRPPEncrypted :=
  let paySize : ℤ := e.originalPayload.length
  let padSize : ℤ := e.srppPadding.length
  if paySize > size then
    { e with originalPayload := e.originalPayload.take size.toNat, srppPadding := [], padCount := 0 }
  else if padSize > size - paySize then
    { e with
      srppPadding := e.srppPadding.take (size - paySize).toNat
      padCount := BitVec.ofInt 32 (size - paySize) }
  else e

/-- A cache entry as it is sent: with the counter's sequence number, cut to a size. -/
def asDummy (size seq : ℤ) (msg : SRPPMessage) : SRPPMessage :=
  { msg with
    srppHeader := { msg.srppHeader with seq := BitVec.ofInt 16 seq }
    encryptedPart := cutTo size msg.encryptedPart }

/-- `generate_dummy_pkt(size)`: the entry is changed in place. -/
def generateDummyPkt (size : ℤ) : Lib.Op SRPPMessage := do
  let i ← cacheIndex env
  let l ← get
  let msg := asDummy size l.lastSequenceNo (l.padding.dummyCache i)
  modify fun l => { l with lastSequenceNo := l.lastSequenceNo + 1 }
  setEntry i msg
  return msg

/-- A message of more than twelve hundred bytes, with a fifth of its payload and of its
padding cut off. The pad count stays. -/
def trimmed (e : SRPPEncrypted) : SRPPEncrypted :=
  if 1200 < e.originalPayload.length + e.srppPadding.length then
    { e with
      originalPayload := e.originalPayload.take (4 * e.originalPayload.length / 5)
      srppPadding := e.srppPadding.take (4 * e.srppPadding.length / 5) }
  else e

/-- A cache entry as `generate_dummy_pkt()` leaves it. -/
def asTrimmed (seq : ℤ) (msg : SRPPMessage) : SRPPMessage :=
  { msg with
    srppHeader := { msg.srppHeader with seq := BitVec.ofInt 16 seq }
    encryptedPart := trimmed msg.encryptedPart }

/-- A drawn entry is given the counter's number, changed in place and returned. -/
def drawEntry (change : ℤ → SRPPMessage → SRPPMessage) : Lib.Op SRPPMessage := do
  let i ← cacheIndex env
  let l ← get
  let msg := change l.lastSequenceNo (l.padding.dummyCache i)
  modify fun l => { l with lastSequenceNo := l.lastSequenceNo + 1 }
  setEntry i msg
  return msg

/-- `generate_dummy_pkt()`. -/
def generateAnyDummyPkt : Lib.Op SRPPMessage := drawEntry env asTrimmed

/-- The bytes `generate_dummy_data` appends, at most `n` in each round, until `remaining`
are there. It copies from the vector object and not from its elements, so what it
finds is whatever the object and the memory behind it hold. -/
def dummyRounds (mem : Mem) (n : ℕ) : ℕ → ℕ → List Byte
  | _, 0 => []
  | 0, _ => []
  | rounds + 1, remaining =>
    mem.read 0 (min n remaining) ++ dummyRounds mem n rounds (remaining - min n remaining)

/-- The loop of `generate_dummy_data`: with an empty entry it makes no progress. -/
def dummyBytes (mem : Mem) (n : ℕ) (size : ℤ) : Except Fault (List Byte) :=
  if size ≤ 0 then .ok []
  else if n = 0 then .error .diverges
  else .ok (dummyRounds mem n size.toNat size.toNat)

/-- `generate_dummy_data(size)`. -/
def generateDummyData (size : ℤ) : Lib.Op (List Byte) := do
  let i ← cacheIndex env
  unusedMessage env
  let n := ((← get).padding.dummyCache i).encryptedPart.originalPayload.length
  let t ← nextTick
  liftM (dummyBytes (env.junk t) n size)

/-- `add_to_dummy_cache`. -/
def addToDummyCache (msg : SRPPMessage) : Lib.Op Unit := do
  let i ← cacheIndex env
  let size ← rand env 1 500
  let payload ← scramble env msg.encryptedPart.originalPayload
  let extra ← randomBytes env (size.toNat - payload.length)
  setEntry i { msg with
    encryptedPart :=
      { msg.encryptedPart with originalPayload := payload ++ extra, dummyFlag := 1 } }

def resetPacketTimer : Lib.Op Unit :=
  modify fun l => { l with timer := { l.timer with packetCounter := 0 } }

def resetSilenceTimer : Lib.Op Unit :=
  modify fun l => { l with timer := { l.timer with silenceCounter := 0 } }

/-- The scaled bandwidth of gradual ascent. -/
def ascend (paySize : ℤ) : Lib.Op Unit := do
  let a ← rand env paySize 1366
  let b ← rand env a 1366
  setPadding fun p => { p with lastmaxbandwidth := env.ascent paySize a b }

/-- The number of padding bytes `default_psp_pad_algo` decides on. -/
def extraSize (paySize : ℤ) : Lib.Op ℤ := do
  let p := (← get).padding
  let extra ← (if p.isFullBandwidth then pure (1366 - paySize) else rand env 1 (1366 - paySize))
  let extra ← (if p.gradualAscentBandwidth then do
      (if p.lastmaxbandwidth < paySize then ascend env paySize else pure ())
      rand env 1 ((← get).padding.lastmaxbandwidth - paySize)
    else pure extra)
  if p.isSmallPerturbation || p.isBurstPadding then rand env 0 10 else pure extra

/-- `default_psp_pad_algo`. -/
def defaultPspPadAlgo (msg : SRPPMessage) : Lib.Op SRPPMessage := do
  let extra ← extraSize env msg.encryptedPart.originalPayload.length
  let status ← generateDummyData env extra
  resetPacketTimer
  resetSilenceTimer
  return { msg with
    encryptedPart :=
      { msg.encryptedPart with srppPadding := status, padCount := BitVec.ofInt 32 extra } }

/-- `pad`: packet size padding, and on a coin toss a copy for the dummy cache. -/
def pad (msg : SRPPMessage) : Lib.Op SRPPMessage := do
  let msg ← defaultPspPadAlgo env msg
  let msg := { msg with encryptedPart := { msg.encryptedPart with dummyFlag := 0 } }
  let coin ← rand env 0 10
  (if coin ≤ 5 then addToDummyCache env msg else pure ())
  return msg

/-- `rtp_to_srpp(RTP_Header, char*, int)`. -/
def rtpToSrppOp (rtp : RTPHeader) (data : List Byte) : Lib.Op SRPPMessage := do
  let f ← nextFresh env
  let msg ← liftM (rtpFields f rtp data)
  let msg ← pad env msg
  let r ← rawRand env
  return sealSrpp msg (← get).session.encryptionKey r

/-- `rtp_to_srpp(RTPMessage*)`. -/
def rtpMessageToSrppOp (m : RTPMessage) : Lib.Op SRPPMessage := do
  let f ← nextFresh env
  let msg ← liftM (rtpMessageFields f m)
  let msg ← pad env msg
  let r ← rawRand env
  return sealSrpp msg (← get).session.encryptionKey r

end Sqrkal.Library
