import Sqrkal.Message.Layout

/-! # SRPP messages and their wire format

`srppToNetwork` and `networkToSrpp` follow `SRPPMessage.hpp` statement by
statement. The encoder works on a buffer whose previous contents are an
argument; the decoder works on the memory around the received bytes, since it
computes every pointer backwards from the end of the packet without a check.
-/

namespace Sqrkal.Message
open Foundation

/-- Ways in which the program stops without returning. -/
inductive Fault where
  /-- A contributing-source index past the fifteen-entry array. -/
  | outOfBounds
  /-- `std::length_error` from a string built with a negative length. -/
  | lengthError
  /-- `std::out_of_range` from `substr`. -/
  | outOfRange
  /-- A loop that never makes progress. -/
  | diverges
  /-- A call of `exit`. -/
  | exited
deriving DecidableEq, Repr

structure SRPPEncrypted where
  originalPayload : List Byte
  srppPadding : List Byte
  padCount : BitVec 32
  dummyFlag : BitVec 15
  originalPaddingBit : BitVec 1
  originalSeqNumber : BitVec 16
deriving DecidableEq

structure SRPPMessage where
  srppHeader : SRPPHeader
  encryptedPart : SRPPEncrypted
  authenticationTag : BitVec 32
deriving DecidableEq

/-- What the message constructor takes from outside: the next sequence number,
the clock, the source identifier, and the previous contents of the signalling
word, which it never assigns. -/
structure Fresh where
  seq : BitVec 16
  ts : BitVec 32
  ssrc : BitVec 32
  signalling : BitVec 32
deriving DecidableEq

/-- The constructor `SRPPMessage()`. The count `htons(15)` is cut to four bits. -/
def SRPPMessage.new (f : Fresh) : SRPPMessage where
  srppHeader :=
    { version := 2, p := 0, x := 1, cc := (htons 15).setWidth 4, m := 0, pt := 121, seq := f.seq
      ts := f.ts, ssrc := f.ssrc, csrc := fun _ => 0, definedByProfile := 9999
      extensionHeader := 1, srppSignalling := f.signalling }
  encryptedPart :=
    { originalPayload := [], srppPadding := [], padCount := 0, dummyFlag := 0
      originalPaddingBit := 0, originalSeqNumber := 0 }
  authenticationTag := 0

def createSrppMessage (f : Fresh) (data : List Byte) : SRPPMessage :=
  { SRPPMessage.new f with
    encryptedPart := { (SRPPMessage.new f).encryptedPart with originalPayload := data } }

/-- `ntohs(cc)` as a loop bound: the four-bit count is widened first. -/
def csrcBound (cc : BitVec 4) : ℕ := (htons (cc.setWidth 16)).toNat

/-- A loop over contributing sources bounded by `ntohs(cc)`: it assigns the
entries below the bound and runs past the array as soon as the bound exceeds it. -/
def csrcLoop (cc : BitVec 4) (f : BitVec 32 → BitVec 32) (src dst : Csrc) : Except Fault Csrc :=
  if csrcBound cc ≤ 15 then .ok fun i => if (i : ℕ) < csrcBound cc then f (src i) else dst i
  else .error .outOfBounds

/-- The contributing sources put on the wire: swapped ones, then filler drawn
from a generator reseeded for each entry (`2^32` is an exclusive or). -/
def wireCsrc (cc : BitVec 4) (csrc : Csrc) (filler : Fin 15 → BitVec 32) : Except Fault Csrc :=
  csrcLoop cc htonl csrc fun i => filler i * 34 + 1

/-- The header as `srpp_to_network` stores it. -/
def SRPPHeader.toWire (h : SRPPHeader) (csrc : Csrc) : SRPPHeader :=
  { h with
    seq := htons h.seq, ts := htonl h.ts, ssrc := htonl h.ssrc, csrc := csrc
    definedByProfile := htons h.definedByProfile, extensionHeader := htons h.extensionHeader
    srppSignalling := htonl h.srppSignalling }

/-- The header as `network_to_srpp` reads it; here the loop bound is the count itself. -/
def SRPPHeader.ofWire (h : SRPPHeader) : SRPPHeader :=
  { h with
    seq := htons h.seq, ts := htonl h.ts, ssrc := htonl h.ssrc
    csrc := fun i => if (i : ℕ) < h.cc.toNat then htonl (h.csrc i) else h.csrc i
    definedByProfile := htons h.definedByProfile, extensionHeader := htons h.extensionHeader
    srppSignalling := htonl h.srppSignalling }

/-- The exclusive or of the pad count with the key, as both codec directions
guard it: a positive key and a media message. -/
def maskPadCount (padCount key signalling : BitVec 32) : BitVec 32 :=
  if 0 < key.toInt ∧ signalling = 0 then padCount ^^^ key else padCount

/-- Pad count, flags and original sequence number (`memcpy` of eight bytes), then the tag. -/
def storeTrailer (mem : Mem) (a : ℤ) (e : SRPPEncrypted) (tag : BitVec 32) : Mem :=
  (((mem.store32 a e.padCount).store16 (a + 4) (e.originalPaddingBit ++ e.dummyFlag)).store16
    (a + 6) e.originalSeqNumber).store32 (a + 8) (htonl tag)

/-- Payload and padding, each copied as a C string, and the place of the trailer. -/
def storeBody (mem : Mem) (e : SRPPEncrypted) (key signalling : BitVec 32) : Mem × ℤ :=
  let mem := mem.strcpy sizeofSRPPHeader e.originalPayload
  let data := sizeofSRPPHeader + e.originalPayload.length
  -- the pad count is decrypted in place here and encrypted again before the trailer
  let pad := maskPadCount e.padCount key signalling
  if 0 < pad.toNat ∧ signalling = 0 then (mem.strcpy data e.srppPadding, data + pad.toNat)
  else (mem, data)

def srppToNetwork (msg : SRPPMessage) (mem : Mem) (filler : Fin 15 → BitVec 32)
    (key : BitVec 32) : Except Fault Mem := do
  let csrc ← wireCsrc msg.srppHeader.cc msg.srppHeader.csrc filler
  let mem := (msg.srppHeader.toWire csrc).store mem 0
  let (mem, data) := storeBody mem msg.encryptedPart key msg.srppHeader.srppSignalling
  return storeTrailer mem data msg.encryptedPart msg.authenticationTag

/-- Everything `network_to_srpp` assigns before it looks at the pad count. -/
def readTrailer (msg : SRPPMessage) (mem : Mem) (bytes : ℤ) (key : BitVec 32) : SRPPMessage :=
  let header := (SRPPHeader.load mem 0).ofWire
  let flags := mem.load16 (bytes - 8)
  { srppHeader := header
    encryptedPart :=
      { msg.encryptedPart with
        padCount := maskPadCount (mem.load32 (bytes - 12)) key header.srppSignalling
        dummyFlag := flags.extractLsb' 0 15
        originalPaddingBit := flags.extractLsb' 15 1
        originalSeqNumber := mem.load16 (bytes - 6) }
    authenticationTag := htonl (mem.load32 (bytes - 4)) }

/-- The end of `network_to_srpp`: everything from the end of the header up to the
pointer `data` becomes the payload. A negative length throws. -/
def takePayload (msg : SRPPMessage) (mem : Mem) (data : ℤ) (padCount : BitVec 32) :
    Except Fault (ℤ × SRPPMessage) :=
  let bytes := data - sizeofSRPPHeader
  if bytes < 0 then .error .lengthError
  else
    .ok (0, { msg with
      encryptedPart :=
        { msg.encryptedPart with
          padCount := padCount
          originalPayload := mem.read sizeofSRPPHeader bytes.toNat } })

/-- The decoder, called on an existing message object. It returns the C status
and the object. -/
def networkToSrpp (msg : SRPPMessage) (mem : Mem) (bytes : ℤ) (key : BitVec 32) :
    Except Fault (ℤ × SRPPMessage) :=
  let msg := readTrailer msg mem bytes key
  let pad := msg.encryptedPart.padCount
  if 1500 < pad.toNat then .ok (-1, msg)
  else if 0 < pad.toNat ∧ msg.srppHeader.srppSignalling = 0 then
    takePayload msg mem (bytes - 12 - pad.toNat) (pad ^^^ key)
  else
    -- with no padding the pointer is still the one to the tag, four bytes from the end
    takePayload msg mem (bytes - 4) 0

/-- The common body of `encrypt` and `decrypt`. -/
def xorPart (e : SRPPEncrypted) (key : BitVec 32) : SRPPEncrypted where
  originalPayload := e.originalPayload.map (· ^^^ key.setWidth 8)
  srppPadding := e.srppPadding.map (· ^^^ key.setWidth 8)
  originalSeqNumber := e.originalSeqNumber ^^^ key.setWidth 16
  dummyFlag := e.dummyFlag ^^^ key.setWidth 15
  padCount := e.padCount ^^^ key
  originalPaddingBit := e.originalPaddingBit ^^^ key.setWidth 1

def SRPPMessage.encrypt (msg : SRPPMessage) (key : BitVec 32) : SRPPMessage :=
  { msg with encryptedPart := xorPart msg.encryptedPart key }

def SRPPMessage.decrypt (msg : SRPPMessage) (key : BitVec 32) : SRPPMessage :=
  { msg with encryptedPart := xorPart msg.encryptedPart key }

/-- `srpp_rand(min, max)` on one result of `rand()`. -/
def srppRand (min max : ℤ) (draw : ℕ) : ℤ :=
  if max = 0 then 0 else Int.tmod draw max + min

/-- `encrypt_srpp` with the mask drawn as `srpp_rand(0, 2^15) | 1`, where `2^15` is 13. -/
def encryptSrpp (msg : SRPPMessage) (key : BitVec 32) (draw : ℕ) : SRPPMessage :=
  let val : BitVec 15 := BitVec.ofInt 15 (srppRand 0 13 draw) ||| 1
  { msg with
    encryptedPart := { msg.encryptedPart with dummyFlag := msg.encryptedPart.dummyFlag &&& val }
    }.encrypt key

def decryptSrpp (msg : SRPPMessage) (key : BitVec 32) : SRPPMessage :=
  let msg := msg.decrypt key
  { msg with
    encryptedPart := { msg.encryptedPart with dummyFlag := msg.encryptedPart.dummyFlag &&& 1 } }

/-- `PaddingFunctions::unpad`. -/
def unpad (msg : SRPPMessage) : ℤ × SRPPMessage :=
  if msg.encryptedPart.dummyFlag = 1 then (-1, msg)
  else
    (1, { msg with encryptedPart := { msg.encryptedPart with srppPadding := [], padCount := 0 } })

/-- The classification shared by both overloads of `isSignalingMessage`. -/
def signalingClass (signalling : BitVec 32) (pt : BitVec 7) : ℤ :=
  if signalling = 0 ∧ pt ≠ 124 then -1
  else if signalling ≠ 0 ∧ pt = 124 then 1
  else 0

def isSignalingMessage (msg : SRPPMessage) : ℤ :=
  signalingClass msg.srppHeader.srppSignalling msg.srppHeader.pt

/-- The overload on a raw buffer reads the signalling word without swapping it. -/
def isSignalingBuffer (mem : Mem) : ℤ :=
  signalingClass (SRPPHeader.load mem 0).srppSignalling (SRPPHeader.load mem 0).pt

/-- The decoder takes the header from the beginning of the datagram. -/
theorem networkToSrpp_srppHeader {obj msg : SRPPMessage} {mem : Mem} {bytes status : ℤ}
    {key : BitVec 32} (h : networkToSrpp obj mem bytes key = .ok (status, msg)) :
    msg.srppHeader = (SRPPHeader.load mem 0).ofWire := by
  simp only [networkToSrpp, takePayload] at h
  split_ifs at h
  all_goals
    cases h
    rfl

end Sqrkal.Message
