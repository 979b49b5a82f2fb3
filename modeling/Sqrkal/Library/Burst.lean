import Sqrkal.Library.Signaling

/-! # Burst padding and the timers

The dummies of `default_cbp_pad_algo` and `default_ebp_pad_algo`, and the timer
tick that sets them off. Only the burst mode sends any.
-/

namespace Sqrkal.Library
open Foundation Message

variable {δ : Type} (env : Env) (F : Functors δ)

/-- A dummy of a drawn size, encrypted for sending. -/
def drawDummy : Lib.Op SRPPMessage := do
  let size ← rand env 100 (← get).padding.lastmaxbandwidth
  encryptMessage env (← generateDummyPkt env size)

/-- One round of the loop of `default_cbp_pad_algo`. -/
def burstRound : World.Op δ Unit := do
  let msg ← onLib (drawDummy env)
  (if (← get).lib.packetToSend = 0 then do let _ ← sendMessage env F msg
   else setLib fun l => { l with packetToSend := 0 })
  onLib resetPacketTimer
  onLib resetSilenceTimer

/-- The loop of `default_cbp_pad_algo`. -/
def burstLoop : ℕ → World.Op δ Unit
  | 0 => pure ()
  | n + 1 => do
    burstRound env F
    burstLoop n

def defaultCbpPadAlgo : World.Op δ ℤ := do
  if !(← get).lib.padding.isBurstPadding then return 0
  else
    let calculatedBurstDummies ← onLib (rand env 0 3)
    burstLoop env F calculatedBurstDummies.toNat
    setLib fun l => { l with
      padding := { l.padding with cbpPacketCount := calculatedBurstDummies + 1 } }
    onLib resetPacketTimer
    return 0

def defaultEbpPadAlgo : World.Op δ ℤ := do
  if !(← get).lib.padding.isBurstPadding then return 0
  else
    let msg ← onLib (drawDummy env)
    let _ ← sendMessage env F msg
    return 0

def packetInterval : ℤ := 300

def silenceInterval : ℤ := 400

def pktTimerFired : World.Op δ Unit := do
  let _ ← defaultCbpPadAlgo env F
  onLib resetPacketTimer

def silenceTimerFired : World.Op δ Unit := do
  let _ ← defaultEbpPadAlgo env F
  onLib resetSilenceTimer

/-- `timer_fired`. -/
def timerFired : World.Op δ Unit := do
  setLib fun l => { l with
    timer := { l.timer with
      packetCounter := l.timer.packetCounter + 1
      silenceCounter := l.timer.silenceCounter + 1 } }
  let t := (← get).lib.timer
  (if t.packetCounter = packetInterval ∧ t.packetOn then pktTimerFired env F else pure ())
  let t := (← get).lib.timer
  (if t.silenceCounter = silenceInterval ∧ t.silenceOn then silenceTimerFired env F else pure ())

end Sqrkal.Library
