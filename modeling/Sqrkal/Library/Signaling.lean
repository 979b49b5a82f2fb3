import Sqrkal.Library.Padding

/-! # In-band signalling

`Signaling_functions.hpp` and the part of `SRPP_functions.cpp` that sends,
receives and dispatches messages. A handler may read the next message itself,
through the receive functor of the host program, before it returns.
-/

namespace Sqrkal.Library
open Foundation Message

variable {δ : Type} (env : Env) (F : Functors δ)

/-- A pointer to uninitialised memory, and the filler `srpp_to_network` draws. -/
def scratch : Lib.Op (Mem × (Fin 15 → BitVec 32)) := do
  let t ← nextTick
  return (env.junk t, env.filler t)

/-- `send_message`. A message without payload is not sent. -/
def sendMessage (msg : SRPPMessage) : World.Op δ ℤ := do
  if msg.encryptedPart.originalPayload = [] then return 0
  else
    let (buff, filler) ← onLib (scratch env)
    let l := (← get).lib
    let key := if isSignalingMessage msg = 1 then 0 else l.session.encryptionKey
    let wire ← liftM (srppToNetwork msg buff filler key)
    setLib fun l => { l with packetToSend := 1 }
    let status ← F.send (wire.read 0 (srppSize msg).toNat)
    setLib fun l => { l with packetToSend := 0 }
    return status

/-- `send_message` hands the datagram to the send functor, between two changes of
`packet_to_send`. -/
theorem sendMessage_run {w : World δ} {msg : SRPPMessage} {wire : Mem}
    (hp : msg.encryptedPart.originalPayload ≠ [])
    (hw : srppToNetwork msg (env.junk w.lib.tick) (env.filler w.lib.tick)
      (if isSignalingMessage msg = 1 then 0 else w.lib.session.encryptionKey) = .ok wire) :
    (sendMessage env F msg).run w = (do
      let status ← F.send (wire.read 0 (srppSize msg).toNat)
      setLib fun l => { l with packetToSend := 0 }
      return status).run { w with lib := { w.lib.ticked with packetToSend := 1 } } := by
  have hs : (scratch env).run w.lib =
      .ok ((env.junk w.lib.tick, env.filler w.lib.tick), w.lib.ticked) := rfl
  rw [sendMessage, if_neg hp, run_bind_ok (onLib_run hs), run_get_bind]
  dsimp only [Lib.ticked]
  rw [run_bind_ok (run_lift_ok hw _), run_bind_ok (setLib_run _ _)]

/-- A `send_message` that returns has encoded its message. -/
theorem sendMessage_ok {w w' : World δ} {msg : SRPPMessage} {status : ℤ}
    (hp : msg.encryptedPart.originalPayload ≠ []) (h : (sendMessage env F msg).run w = .ok (status, w')) :
    ∃ (wire : Mem) (w₁ : World δ),
      srppToNetwork msg (env.junk w.lib.tick) (env.filler w.lib.tick)
        (if isSignalingMessage msg = 1 then 0 else w.lib.session.encryptionKey) = .ok wire ∧
      (F.send (wire.read 0 (srppSize msg).toNat)).run
        { w with lib := { w.lib.ticked with packetToSend := 1 } } = .ok (status, w₁) ∧
      w' = { w₁ with lib := { w₁.lib with packetToSend := 0 } } := by
  have hencoded := h
  rw [sendMessage, if_neg hp] at hencoded
  rcases run_bind_eq_ok hencoded with ⟨r, w₁, hscratch, hencoded⟩
  cases hscratch
  rw [run_get_bind] at hencoded
  rcases run_bind_eq_ok hencoded with ⟨wire, w₂, hlift, -⟩
  rcases run_lift_eq_ok hlift with ⟨hwire, rfl⟩
  rw [sendMessage_run env F hp hwire] at h
  rcases run_bind_eq_ok h with ⟨_, w₃, hsend, h⟩
  cases h
  exact ⟨wire, w₃, hwire, hsend, rfl⟩

/-- A signalling message of a given type, as all the send functions build it. -/
def signalingMessage (kind : BitVec 32) (options : List Byte) : Lib.Op SRPPMessage := do
  let msg ← createMessage env options
  return { msg with
    srppHeader := { msg.srppHeader with pt := 124, srppSignalling := kind, x := 1 } }

/-- The text of a HELLO: key and packet size in a buffer of fifteen, then the options. -/
def helloOptions (key psize : ℤ) : List Byte :=
  snprintf 15 (decimal key ++ text "," ++ decimal psize) ++
    text ", YES, YES, YES, YES, DEFAULT, DEFAULT, DEFAULT"

/-- The text of a HELLOACK: the packet size in a buffer of six, then the options. -/
def helloAckOptions (psize : ℤ) : List Byte :=
  snprintf 6 (decimal psize) ++ text "YES, YES, YES, DEFAULT, DEFAULT, DEFAULT"

/-- The repeated HELLO: each round is skipped for good once a HELLOACK is in. -/
def sendHellos (options : List Byte) : ℕ → World.Op δ Bool
  | 0 => pure true
  | n + 1 => do
    if (← get).lib.flags.helloackrecvd then return false
    else
      setFlags fun f => { f with hellosent := true }
      let msg ← onLib (signalingMessage env 12 options)
      let _ ← sendMessage env F msg
      sendHellos options n

/-- The loop around `receive_message` that ends with a flag or with the count. -/
def waitFor (done : Flags → Bool) : ℕ → World.Op δ ℤ
  | 0 => do
    if done (← get).lib.flags then return 0
    else
      F.receive
      return -1
  | n + 1 => do
    if done (← get).lib.flags then return 0
    else
      F.receive
      waitFor done n

def sendHelloMessage : World.Op δ ℤ := do
  let f := (← get).lib.flags
  if f.hellosent || f.hellorecvd || f.helloacksent || f.helloackrecvd then return -1
  else
    let key ← onLib (rand env 0 65535)
    let options := helloOptions key (← get).lib.session.maxpacketsize
    setLib fun l => { l with session := { l.session with encryptionKey := BitVec.ofInt 32 key } }
    let _ ← onLib (signalingMessage env 12 options)
    if ← sendHellos env F options 5 then
      if (← get).lib.srppEnabled = 0 then return -10
      else
        onLib (unusedMessage env)
        F.receive
        waitFor F Flags.signalingComplete 120000
    else return 0

def sendHelloAckMessage : World.Op δ ℤ := do
  let f := (← get).lib.flags
  if (!f.hellorecvd && !f.hellosent) || f.helloacksent then return -1
  else
    let options := helloAckOptions (← get).lib.session.maxpacketsize
    let msg ← onLib (signalingMessage env 13 options)
    if !f.helloackrecvd || f.hellosent then
      let _ ← sendMessage env F msg
      setFlags fun f => { f with helloacksent := true }
      (if !(← get).lib.flags.signalingComplete then F.receive else pure ())
      return 0
    else return 0

/-- `SignalingFunctions::signaling`, with a random delay first. -/
def signaling : World.Op δ ℤ := do
  let _ ← onLib (rand env 5000 10000)
  sendHelloMessage env F

def receivedHelloMessage : World.Op δ ℤ := do
  setFlags fun f => { f with hellorecvd := true }
  sendHelloAckMessage env F

/-- The assignment `signaling_complete = 1`. -/
def completeSignaling : World.Op δ Unit :=
  modify fun w => { w with
    lib := { w.lib with flags := { w.lib.flags with signalingComplete := true } }
    log := .completed :: w.log }

def receivedHelloAckMessage : World.Op δ ℤ := do
  setFlags fun f => { f with helloackrecvd := true }
  let sent := (← get).lib.flags.helloacksent
  completeSignaling
  let i ← (if sent then pure 0 else sendHelloAckMessage env F)
  setFlags fun f => { f with hellosent := false, helloackrecvd := false }
  return i

def sendByeAckMessage : World.Op δ ℤ := do
  let f := (← get).lib.flags
  if (!f.byerecvd && !f.byesent) || f.byeacksent then return -1
  else
    let msg ← onLib (signalingMessage env 23 [])
    let _ ← sendMessage env F msg
    setFlags fun f => { f with byeacksent := true }
    return 0

def receivedByeMessage : World.Op δ ℤ := do
  setFlags fun f => { f with byerecvd := true }
  sendByeAckMessage env F

def receivedByeAckMessage : World.Op δ ℤ := do
  setFlags fun f => { f with byeackrecvd := true }
  let sent := (← get).lib.flags.byeacksent
  setFlags fun f => { f with sessionComplete := true }
  if sent then return 0 else sendByeAckMessage env F

def sendByeMessage : World.Op δ ℤ := do
  let msg ← onLib (signalingMessage env 22 [])
  let _ ← sendMessage env F msg
  setFlags fun f => { f with byesent := true }
  onLib (unusedMessage env)
  F.receive
  waitFor F Flags.sessionComplete 30000

/-- `SRPPTimer::pauseTimer`. -/
def pauseTimer (l : Lib) : Lib :=
  { l with timer := { l.timer with packetOn := false, silenceOn := false } }

/-- `srpp::stop_session`. -/
def stopSession : World.Op δ ℤ := do
  setLib pauseTimer
  if (← get).lib.srppEnabled = 0 then return -10
  else
    (if (← get).lib.signalingBySrpp then do let _ ← sendByeMessage env F else pure ())
    return if (← get).lib.flags.sessionComplete then 1 else -1

/-- A disabled session is stopped without a word to the peer. -/
theorem stopSession_disabled {w : World δ} (h : w.lib.srppEnabled = 0) :
    (stopSession env F).run w = .ok (-10, { w with lib := pauseTimer w.lib }) := by
  rw [stopSession, run_bind_ok (setLib_run _ _), run_get_bind,
    if_pos (show (pauseTimer w.lib).srppEnabled = 0 from h)]
  rfl

/-- `srpp::start_session()`. -/
def startSession : World.Op δ ℤ := do
  let status ← (if (← get).lib.signalingBySrpp then signaling env F else pure 0)
  if status < 0 then return -1
  else
    setLib fun l =>
      { l with timer := { l.timer with packetOn := true, silenceOn := true }, srppEnabled := 1 }
    return 0

/-- An integer left in a register by a function that ends without `return`. -/
def indeterminate : Lib.Op ℤ := do return ((env.junk (← nextTick)).load32 0).toInt

/-- `verifySignalling`. One path ends without a value. -/
def verifySignalling (mem : Mem) : World.Op δ ℤ := do
  if (← get).lib.flags.hellosent then
    let header := SRPPHeader.load mem 0
    if header.srppSignalling ≠ 13 ∧ header.pt ≠ 124 then
      setLib fun l => { l with nonsrppMessageCount := l.nonsrppMessageCount + 1 }
      if 1000 < (← get).lib.nonsrppMessageCount then
        setLib fun l => { l with srppEnabled := 0 }
        stopSession env F
      else return -1
    else onLib (indeterminate env)
  else return 0

/-- The packet size a peer announces only ever lowers the session's. -/
def lowerMaxpacketsize (size : ℤ) (l : Lib) : Lib :=
  if size < l.session.maxpacketsize then
    { l with session := { l.session with maxpacketsize := size }, maxpacketsize := size }
  else l

theorem lowerMaxpacketsize_flags (size : ℤ) (l : Lib) : (lowerMaxpacketsize size l).flags = l.flags := by
  unfold lowerMaxpacketsize
  split_ifs <;> rfl

/-- `setKey(atoi(..))`. -/
def setKey (key : ℤ) (l : Lib) : Lib :=
  { l with session := { l.session with encryptionKey := BitVec.ofInt 32 key } }

/-- The branches of `processReceivedData` for the types of signalling message. -/
def dispatch (msg : SRPPMessage) : World.Op δ Unit := do
  let kind := msg.srppHeader.srppSignalling
  let options := msg.encryptedPart.originalPayload
  if kind = 12 then
    setLib (setKey (atoi (firstField options)))
    setLib (lowerMaxpacketsize (atoi (firstField (afterComma options))))
    let _ ← receivedHelloMessage env F
  else if kind = 13 then
    setLib (lowerMaxpacketsize (atoi (firstField options)))
    let _ ← receivedHelloAckMessage env F
  else if kind = 22 then
    let _ ← receivedByeMessage env F
  else if kind = 23 then
    let _ ← receivedByeAckMessage env F
  else pure ()

/-- `processReceivedData`; `none` where it ends without a value. -/
def processReceivedData (mem : Mem) (bytesRead : ℤ) : World.Op δ (Option SRPPMessage) := do
  let msg ← onLib (createMessage env [])
  let l := (← get).lib
  if !l.signalingBySrpp && l.flags.signalingComplete then
    let (_, msg) ← liftM (networkToSrpp msg mem bytesRead l.session.encryptionKey)
    return some msg
  else if isSignalingBuffer mem = 1 then
    let (_, msg) ← liftM (networkToSrpp msg mem bytesRead 0)
    if isSignalingMessage msg = 1 then
      dispatch env F msg
      return none
    else return some msg
  else
    let status ← verifySignalling env F mem
    let l := (← get).lib
    if status = 0 ∧ l.srppEnabled = 0 then
      let (_, msg) ← liftM (networkToSrpp msg mem bytesRead l.session.encryptionKey)
      -- the header is the same as in the buffer, so this is no signalling message either
      if isSignalingMessage msg = 1 then
        dispatch env F msg
        return none
      else return some msg
    else return none

end Sqrkal.Library
