import Sqrkal.Discovery.Checked
import Sqrkal.Library.Interruption

/-! # Alarms while a SIP packet is handled

The handler of the alarm signal may run between any two statements. While a SIP packet is
handled it may find a destination that is still to be used. Here it runs at the functors that
`parse_sip` calls, and between the statements behind it. In between, `parse_sip` only assigns to
globals of the discovery, and a handler that transmits nothing might as well run before that.
-/

namespace Sqrkal.Discovery
open Foundation Message Library

/-- How far the handling of a SIP packet has come. -/
inductive SipPoint where
  | entered
  | calling
  | called
  | parsed
  | redirected
  | addressed
  | handedOver
  | halfSent
  | sent
  | finished

section Interrupted
variable (env : Env) (host : Host) (interrupt : SipPoint → Op Unit) (F : Functors Globals)

/-- The functors, with a handler before and behind every call. -/
def interruptedFunctors : Functors Globals where
  send d := do
    interrupt .calling
    let status ← F.send d
    interrupt .called
    return status
  receive := do
    interrupt .calling
    F.receive
    interrupt .called

/-- `forward`, with a handler between its statements. -/
def interruptedForward (packet : ℕ) (buff : Mem) (bytesRead : ℤ) : Op Mem := do
  observe (.handedOver packet)
  interrupt .handedOver
  if bytesRead > ipMtu then
    let fragId := (← get).ext.fragId
    setGlobals fun g => { g with fragId := g.fragId + 1 }
    observe (.fragmented packet)
    let buff := firstFragment fragId buff
    let _ ← sendRawMessage packet buff ipMtu
    interrupt .halfSent
    let t ← onLib nextTick
    let bytesLeft := (bytesRead - ipMtu).toNat
    let _ ← sendRawMessage packet (secondFragment (env.junk t) buff bytesLeft) (bytesLeft + 20)
    return buff
  else
    let buff := formChecksums buff
    let _ ← sendRawMessage packet buff bytesRead
    return buff

/-- `forwardSip`, with a handler between its statements. -/
def interruptedForwardSip (packet : ℕ) (buff : Mem) (bytesRead : ℤ) (inward : Bool) : Op Mem := do
  (if inward then setGlobals fun g => { g with outAddr := { g.outAddr with addr := loopback } }
   else pure ())
  interrupt .redirected
  let g := (← get).ext
  let udp := transportAt buff
  let buff := buff.store16 udp (htonsInt 5060)
  let buff := buff.store16 (udp + 2) g.outAddr.port
  let buff := setTtl (setDaddr buff g.outAddr.addr) g.srppTtl
  interrupt .addressed
  let buff ← interruptedForward env interrupt packet buff bytesRead
  interrupt .sent
  (if inward then setGlobals fun g => { g with outAddr := { g.outAddr with addr := saddr buff } }
   else pure ())
  return buff

/-- `handleSip`, with a handler between its statements. -/
def interruptedSip (packet : ℕ) (buff : Mem) (bytesRead : ℤ) (inward : Bool) : Op (Mem × ℤ) := do
  let offset := transportAt buff + 8
  interrupt .entered
  if bytesRead < offset then throw .lengthError
  else
    let str := buff.read offset (bytesRead - offset).toNat
    let parseresult ← parseSip env host (interruptedFunctors interrupt F) str inward
    interrupt .parsed
    let (buff, offset) ← (if (← get).ext.outAddr.port ≠ 0 ∧ 0 ≤ parseresult then do
        let buff ← interruptedForwardSip env interrupt packet buff bytesRead inward
        return (buff, offset - 8)
      else return (buff, offset))
    captureSipHeader buff
    interrupt .finished
    return (buff, offset)

/-- `process_packet`, with a handler between the statements for a SIP packet. -/
def interruptedPacket (p : Packet) : Op (Option ℤ) := do
  let w ← get
  if IsSip w.ext.sipPorts p then
    set (enterSip w p)
    let r ← interruptedSip env host interrupt F p.id p.mem p.bytes.length (isInward host p)
    afterSip env host F p r
  else processPacket env host F p

/-- Without a handler these are the functions of the process. -/
theorem interruptedPacket_none (p : Packet) :
    interruptedPacket env host (fun _ => pure ()) F p = processPacket env host F p := by
  have hfunctors : interruptedFunctors (fun _ => pure ()) F = F := by
    simp [interruptedFunctors]
  have hforward : ∀ packet buff n,
      interruptedForward env (fun _ => pure ()) packet buff n = forward env packet buff n := by
    intro packet buff n
    simp only [interruptedForward, forward, sendFragmentedMessage, pure_bind]
  have hsip : ∀ buff n inward, interruptedSip env host (fun _ => pure ()) F p.id buff n inward =
      handleSip env host F p.id buff n inward := by
    intro buff n inward
    simp only [interruptedSip, handleSip, interruptedForwardSip, forwardSip, captureSipHeader, hfunctors,
      hforward, pure_bind]
  funext w
  by_cases hs : IsSip w.ext.sipPorts p
  · refine Eq.trans ?_ (processPacket_sip hs).symm
    change (interruptedPacket env host (fun _ => pure ()) F p).run w = _
    rw [interruptedPacket, run_get_bind, if_pos hs, hsip]
    rfl
  · change (interruptedPacket env host (fun _ => pure ()) F p).run w = _
    rw [interruptedPacket, run_get_bind, if_neg hs]
    rfl

end Interrupted

/-! ## Runs of the handler -/

/-- How often the alarm goes off at each point of a SIP packet, and which runs of the handler
are allowed. -/
structure Alarms where
  times : SipPoint → Process → ℕ
  allowed : Lib → Bool

section Handler
variable (env : Env) (F : Functors Globals)

/-- Some runs of the handler. One that is not allowed ends the process. -/
def runHandler (allowed : Lib → Bool) : ℕ → Op Unit
  | 0 => pure ()
  | n + 1 => do
    if allowed (← get).lib then
      timerFired env F
      runHandler allowed n
    else throw .exited

/-- The runs of the handler at a point. -/
def Alarms.interrupt (a : Alarms) (point : SipPoint) : Op Unit := do
  runHandler env F a.allowed (a.times point (← get))

/-- `process_packet`, interrupted by alarms. -/
def Alarms.process (env : Env) (host : Host) (a : Alarms) (F : Functors Globals) (p : Packet) :
    Op (Option ℤ) :=
  interruptedPacket env host (a.interrupt env F) F p

/-- Alarms at which no dummy is transmitted. -/
def quietAlarms (times : SipPoint → Process → ℕ) : Alarms := ⟨times, fun l => decide (NoDummy env l)⟩

/-- Alarms that never go off make no difference. -/
theorem quietAlarms_never (host : Host) :
    (quietAlarms env fun _ _ => 0).process env host = processPacket env host := by
  funext F p
  exact interruptedPacket_none env host F p

variable {env F} {w : Process}

/-- A handler that transmits nothing might as well run before an assignment to the globals. -/
theorem timerFired_setGlobals (h : NoDummy env w.lib) (f : Globals → Globals) :
    (do setGlobals f; timerFired env F).run w = (do timerFired env F; setGlobals f).run w := by
  obtain ⟨l, hrun⟩ := timerFired_noDummy (F := F) h
  rw [run_bind_ok (setGlobals_run f w), run_bind_ok (hrun w.ext w.log)]
  exact hrun (f w.ext) w.log

/-- Quiet alarms keep to every relation that the library is free in. -/
theorem quietAlarms_within {R : Process → Process → Prop} (hR : ∀ w l, R w { w with lib := l })
    (times : SipPoint → Process → ℕ) (point : SipPoint) :
    Within R ((quietAlarms env times).interrupt env F point) := by
  have hruns : ∀ n, Within R (runHandler env F (quietAlarms env times).allowed n) := by
    intro n
    induction n with
    | zero => exact .pure ()
    | succ n ih =>
      refine .get_bind fun w => ?_
      split_ifs with hquiet
      · obtain ⟨l, hrun⟩ := timerFired_noDummy (F := F) (of_decide_eq_true hquiet)
        exact .of_run_eq (run_bind_ok (hrun w.ext w.log)) (.single (hR w l)) (ih _)
      · exact Within.throw _ w
  exact .get_bind fun w => hruns _ w

end Handler

end Sqrkal.Discovery
