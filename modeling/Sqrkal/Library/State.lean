import Sqrkal.Foundation.Program
import Sqrkal.Foundation.Text
import Sqrkal.Message.Conversion

/-! # The state of the SRPP library

The globals of `SRPP_functions.cpp`, the private members of `SignalingFunctions`,
the session, the timers and the padding state. Whatever the process takes from
outside is an `Env`, asked by the number of the request, so a run is a function
of the environment and the input.
-/

namespace Sqrkal.Library
open Foundation Message

/-- The world outside the process: results of `rand()`, the microsecond clock,
the contents of uninitialised memory, the reseeded generator that fills unused
contributing sources, the process-wide source identifier, and the value of
`(int)(pay_size*(m/l))` in single precision. -/
structure Env where
  rand : ℕ → ℕ
  clock : ℕ → BitVec 32
  junk : ℕ → Mem
  filler : ℕ → Fin 15 → BitVec 32
  ssrc : BitVec 32
  ascent : ℤ → ℤ → ℤ → ℤ

/-- The private flags of `SignalingFunctions`. -/
structure Flags where
  hellosent : Bool := false
  hellorecvd : Bool := false
  helloacksent : Bool := false
  helloackrecvd : Bool := false
  byesent : Bool := false
  byerecvd : Bool := false
  byeacksent : Bool := false
  byeackrecvd : Bool := false
  signalingComplete : Bool := false
  sessionComplete : Bool := false
deriving DecidableEq

/-- The negotiated part of `SRPPSession`. -/
structure Session where
  encryptionKey : BitVec 32 := 1655
  maxpacketsize : ℤ := maxPayloadSize

/-- The counters and switches of `SRPPTimer`. -/
structure Timer where
  packetCounter : ℤ := 0
  silenceCounter : ℤ := 0
  packetOn : Bool := false
  silenceOn : Bool := false

/-- The dummy cache and the globals of `Padding_Algorithms.cpp`. -/
structure Padding where
  dummyCache : Fin 100 → SRPPMessage
  cbpPacketCount : ℤ := 0
  isFullBandwidth : Bool := false
  gradualAscentBandwidth : Bool := false
  isBurstPadding : Bool := false
  isMinBinPadding : Bool := false
  isSmallPerturbation : Bool := false
  lastmaxbandwidth : ℤ := 100

structure Lib where
  flags : Flags := {}
  session : Session := {}
  timer : Timer := {}
  padding : Padding
  lastSequenceNo : ℤ := 10000
  maxpacketsize : ℤ := maxPayloadSize
  nonsrppMessageCount : ℤ := 0
  packetToSend : ℤ := 0
  srppEnabled : ℤ := 3
  signalingBySrpp : Bool := true
  tick : ℕ := 0

/-- The library when `main` is entered. The static objects have been constructed in memory that
is zero: ninety-nine messages by `PaddingFunctions`, then the hundred of the cache, in their place,
and the `srpp_msg` of the discovery. -/
def Lib.start (env : Env) : Lib where
  padding :=
    { dummyCache := fun i => SRPPMessage.new
        { seq := BitVec.ofNat 16 (10100 + i), ts := env.clock (99 + i), ssrc := env.ssrc
          signalling := 0 } }
  lastSequenceNo := 10200
  tick := 200

/-- An environment that answers every request alike, with `r` for a random number. -/
def Env.constant (r : ℕ) : Env where
  rand _ := r
  clock _ := 0
  junk _ := fun _ => 0
  filler _ := fun _ => 0
  ssrc := 19
  ascent paySize _ _ := paySize

/-- A datagram given to a socket, with its destination in network order. -/
structure Datagram where
  addr : BitVec 32
  port : BitVec 16
  bytes : List Byte
deriving DecidableEq

/-- What the process does that matters outside it. -/
inductive Event where
  /-- A HELLOACK has set `signaling_complete`. -/
  | completed
  /-- `parse_sip` has handled a BYE, entered with these values of `apply_srpp` and
  `signaling_complete`. -/
  | byeHandled (applySrpp signalingComplete : Bool)
  /-- `start_SRPP` has returned. -/
  | started (status : ℤ)
  /-- An `apply_srpp` branch of `process_packet` has been entered with a packet. -/
  | converted (packet : ℕ)
  /-- `process_packet` has given a packet to `send_raw_message` or `send_fragmented_message`. -/
  | handedOver (packet : ℕ)
  /-- A packet has been sent in two fragments. -/
  | fragmented (packet : ℕ)
  /-- `send_raw_message` has sent a datagram for a packet. -/
  | rawMessage (packet : ℕ) (d : Datagram)
  /-- `send_rtp_message` has sent a message of the library. -/
  | rtpMessage (d : Datagram)
deriving DecidableEq

/-- The library inside a host program with state `δ`. -/
structure World (δ : Type) where
  lib : Lib
  ext : δ
  log : List Event

abbrev Lib.Op (α : Type) := Program Lib Fault α

abbrev World.Op (δ α : Type) := Program (World δ) Fault α

/-- The two functors a host program installs in the library. -/
structure Functors (δ : Type) where
  send : List Byte → World.Op δ ℤ
  receive : World.Op δ Unit

variable {δ α : Type}

def onLib (x : Lib.Op α) : World.Op δ α := zoom World.lib (fun l w => { w with lib := l }) x

def setLib (f : Lib → Lib) : World.Op δ Unit := modify fun w => { w with lib := f w.lib }

def setFlags (f : Flags → Flags) : World.Op δ Unit := setLib fun l => { l with flags := f l.flags }

def observe (e : Event) : World.Op δ Unit := modify fun w => { w with log := e :: w.log }

/-- The number of the next request to the environment. -/
def nextTick : Lib.Op ℕ := fun l => .ok (l.tick, { l with tick := l.tick + 1 })

/-- The result of `rand()` after `srpp_rand` has reseeded the generator. -/
def rawRand (env : Env) : Lib.Op ℕ := do return env.rand (← nextTick)

/-- `srpp_rand`. -/
def rand (env : Env) (min max : ℤ) : Lib.Op ℤ := do return srppRand min max (← rawRand env)

/-- What the constructor `SRPPMessage()` takes from the process. -/
def nextFresh (env : Env) : Lib.Op Fresh := do
  let t ← nextTick
  modify fun l => { l with lastSequenceNo := l.lastSequenceNo + 1 }
  let l ← get
  return { seq := BitVec.ofInt 16 l.lastSequenceNo, ts := env.clock t, ssrc := env.ssrc
           signalling := (env.junk t).load32 76 }

/-- `create_srpp_message`. -/
def createMessage (env : Env) (data : List Byte) : Lib.Op SRPPMessage := do
  return createSrppMessage (← nextFresh env) data

/-- A local variable of type `SRPPMessage` that is never used: only the counter moves. -/
def unusedMessage (env : Env) : Lib.Op Unit := do
  let _ ← nextFresh env

/-- `encrypt_srpp`. -/
def encryptMessage (env : Env) (msg : SRPPMessage) : Lib.Op SRPPMessage := do
  let r ← rawRand env
  let l ← get
  return encryptSrpp msg l.session.encryptionKey r

/-! ## What the small operations do -/

section Runs
variable (w : World δ) (l : Lib) (env : Env)

theorem setLib_run (f : Lib → Lib) : (setLib f).run w = .ok ((), { w with lib := f w.lib }) := rfl

theorem setFlags_run (f : Flags → Flags) :
    (setFlags f).run w = .ok ((), { w with lib := { w.lib with flags := f w.lib.flags } }) := rfl

theorem observe_run (e : Event) : (observe e).run w = .ok ((), { w with log := e :: w.log }) := rfl

variable {w} in
theorem onLib_run {x : Lib.Op α} {a : α} {l : Lib} (h : x.run w.lib = .ok (a, l)) :
    (onLib x).run w = .ok (a, { w with lib := l }) :=
  zoom_run h

theorem onLib_eq_ok {w w' : World δ} {x : Lib.Op α} {a : α} (h : (onLib x).run w = .ok (a, w')) :
    ∃ l, x.run w.lib = .ok (a, l) ∧ w' = { w with lib := l } :=
  zoom_eq_ok h

/-- The state after one more request. -/
def Lib.ticked : Lib := { l with tick := l.tick + 1 }

/-- The state after one more message has been constructed. -/
def Lib.constructed : Lib :=
  { l with tick := l.tick + 1, lastSequenceNo := l.lastSequenceNo + 1 }

theorem rawRand_run : (rawRand env).run l = .ok (env.rand l.tick, l.ticked) := rfl

theorem rand_run (min max : ℤ) :
    (rand env min max).run l = .ok (srppRand min max (env.rand l.tick), l.ticked) := rfl

/-- What a message constructed in this state starts from. -/
def Lib.fresh : Fresh :=
  { seq := BitVec.ofInt 16 (l.lastSequenceNo + 1), ts := env.clock l.tick, ssrc := env.ssrc
    signalling := (env.junk l.tick).load32 76 }

theorem nextFresh_run : (nextFresh env).run l = .ok (l.fresh env, l.constructed) := rfl

theorem createMessage_run (data : List Byte) :
    (createMessage env data).run l = .ok (createSrppMessage (l.fresh env) data, l.constructed) := rfl

theorem unusedMessage_run : (unusedMessage env).run l = .ok ((), l.constructed) := rfl

end Runs

end Sqrkal.Library
