import Sqrkal.Discovery.Run

/-! # The lists of a run

The port lists, the two vectors of packet lengths and the rows of `sizes.txt` are written in
three places. Down to any depth of nested packets the process moves by steps that leave them
alone, by the two pushes of a call that is set up, by outbound packets, and by the BYE that
writes the lengths down. An outbound packet is one step from its conversion to the socket,
since nothing is read in between.
-/

namespace Sqrkal.Discovery
open Foundation Message Library Relation

/-! ## Outbound packets -/

section Outbound
variable (env : Env) (packet : ℕ) (buff : Mem) (bytesRead offset : ℤ)

/-- The outbound branch behind the start of a session, with the length the packet leaves with. -/
def convertAndDeliver : Op ℤ := do
  let (buff, bytesRead) ← (if (← get).ext.applySrpp then
      convertOutboundOp env packet buff bytesRead
    else return (buff, bytesRead))
  deliverOutbound env packet buff bytesRead offset
  return bytesRead

theorem outboundRtp_eq (F : Functors Globals) :
    outboundRtp env F packet buff bytesRead offset = (do
      setGlobals fun g => { g with rtpSrc := saddr buff }
      let g := (← get).ext
      if g.outport = 0 ∨ g.rtpDest = 0 then return some 0
      else
        setGlobals fun g => { g with sentCount := g.sentCount + 1 }
        startIf env F startsOutbound
        let _ ← convertAndDeliver env packet buff bytesRead offset
        return none) := by
  simp only [outboundRtp, prepareOutbound, startIf, convertAndDeliver, bind_assoc, pure_bind]

end Outbound

/-! ## The steps -/

/-- The media ports of a call have been found. -/
def portsNoted (w : Process) : Process :=
  { w with ext := { w.ext with rtpPorts := w.ext.rtpPorts ++ [w.ext.inport, w.ext.outport] } }

inductive LedgerStep (env : Env) (w : Process) : Process → Prop
  | quiet {w' : Process} (h : w'.ext.ledger = w.ext.ledger) : LedgerStep env w w'
  | ports : LedgerStep env w (portsNoted w)
  | outbound (packet : ℕ) (buff : Mem) (bytesRead offset : ℤ) {sent : ℤ} {w' : Process}
      (h : (convertAndDeliver env packet buff bytesRead offset).run w = .ok (sent, w')) :
      LedgerStep env w w'
  | bye : LedgerStep env w (collected w)

section Parts
variable {R : Process → Process → Prop} (h : ∀ w w' : Process, w'.ext.ledger = w.ext.ledger → R w w')
include h

/-- A relation that allows everything that leaves the lists alone. -/
theorem overlooks_ledger : Overlooks R Globals.ledger where
  lib _ _ _ := h _ _ rfl
  complete _ := h _ _ rfl
  globals _ _ hg := h _ _ hg
  event _ _ _ := h _ _ rfl

theorem overlooks_quiet : Overlooks R fun g => (g.core, g.call, g.ledger) :=
  (overlooks_ledger h).weaken (fun p => p.2.2) fun _ => rfl

theorem overlooks_calls : Overlooks R fun g => (g.core, g.ledger) :=
  (overlooks_ledger h).weaken Prod.snd fun _ => rfl

theorem permits_kind : Permits R Globals.beyondKind :=
  (overlooks_ledger h).globals.weaken Globals.ledger fun _ => rfl

theorem permits_address : Permits R Globals.beyondAddress :=
  (overlooks_ledger h).globals.weaken Globals.ledger fun _ => rfl

theorem permits_filter : Permits R Globals.beyondFilter :=
  (overlooks_ledger h).globals.weaken Globals.ledger fun _ => rfl

theorem permits_flow : Permits R Globals.beyondFlow :=
  (overlooks_ledger h).globals.weaken Globals.ledger fun _ => rfl

end Parts

/-! ## What an outbound packet pushes -/

section Pushes
variable {env : Env} {packet : ℕ} {buff : Mem} {bytesRead offset n sent : ℤ} {w w' : Process}

theorem deliverOutbound_ledger
    (h : (deliverOutbound env packet buff n offset).run w = .ok ((), w')) : w'.ext.ledger =
      { w.ext.ledger with outputPacketSizes := w.ext.outputPacketSizes ++ [n] } := by
  let R (w w' : Process) : Prop := w'.ext.ledger = w.ext.ledger
  have hR : Overlooks R fun g => (g.core, g.call, g.ledger) := overlooks_quiet fun _ _ => id
  rw [deliverOutbound, run_bind_ok (setGlobals_run _ _)] at h
  have hsent : ∀ (w : Process) (e : Event), IsOf packet e → R w { w with log := e :: w.log } :=
    fun _ _ _ => rfl
  have hrest := captureAndForward_within env hR (permits_address fun _ _ => id) hsent buff n offset
  exact (hrest _).invariant (I := fun u => u.ext.ledger =
    { w.ext.ledger with outputPacketSizes := w.ext.outputPacketSizes ++ [n] })
    (fun _ _ hstep ht => hstep.trans ht) rfl h

theorem convertAndDeliver_ledger
    (h : (convertAndDeliver env packet buff bytesRead offset).run w = .ok (sent, w')) :
    w'.ext.ledger = { w.ext.ledger with
      inputPacketSizes := w.ext.inputPacketSizes ++ if w.ext.applySrpp then [bytesRead] else []
      outputPacketSizes := w.ext.outputPacketSizes ++ [sent] } := by
  rw [convertAndDeliver, run_get_bind] at h
  rcases run_bind_eq_ok h with ⟨⟨buff', n⟩, u, hconvert, h⟩
  rcases run_bind_eq_ok h with ⟨_, v, hdeliver, hreturn⟩
  cases hreturn
  rw [deliverOutbound_ledger hdeliver]
  split_ifs at hconvert with happly
  · obtain ⟨_, _, _, _, _, _, _, _, -, -, -, rfl⟩ := convertOutboundOp_ok hconvert
    rw [if_pos happly]
    rfl
  · cases hconvert
    rw [if_neg happly, List.append_nil]
    rfl

end Pushes

/-! ## The functions -/

section Functions
variable {env : Env} {host : Host} {F : Functors Globals} (hF : Holds (LedgerStep env) F)
include hF

theorem parseSip_ledger (s : List Byte) (inward : Bool) :
    Within (LedgerStep env) (parseSip env host F s inward) := by
  have hR : Overlooks (LedgerStep env) fun g => (g.core, g.ledger) := overlooks_calls fun _ _ => .quiet
  have hfilter : Permits (LedgerStep env) Globals.beyondFilter := permits_filter fun _ _ => .quiet
  have hstop := stopSession_within env hR.toAllows hF
  apply parseSip_within_of_free env host hR hfilter (.modify fun _ => .ports)
  · exact setServer_within host (permits_address fun _ _ => .quiet)
  · exact hstop
  · exact parseBye_within env hR (fun _ => .bye) (fun _ _ _ => .quiet rfl) hstop
      (addAllRtpRules_within hfilter.rules _ _)

theorem tryStart_ledger : Within (LedgerStep env) (tryStart env F) :=
  tryStart_within env (overlooks_calls fun _ _ => .quiet).toAllows (fun _ => .quiet rfl)
    (fun _ _ => .quiet rfl) hF

theorem prepareInbound_ledger (packet : ℕ) (buff : Mem) (bytesRead : ℤ) (source : BitVec 16) :
    Within (LedgerStep env) (prepareInbound env F packet buff bytesRead source) := by
  have hR : Overlooks (LedgerStep env) fun g => (g.core, g.call, g.ledger) :=
    overlooks_quiet fun _ _ => .quiet
  apply prepareInbound_within env hR (tryStart_ledger hF)
  · intro packet x r hx
    exact .bind .get fun _ => .ite (.bind (.modify fun _ => .quiet rfl) fun _ => hx) (.pure _)
  · exact processReceivedData_within env hR.toAllows hF

/-- The last part of the outbound branch is one step. -/
theorem outboundRtp_ledger (packet : ℕ) (buff : Mem) (bytesRead offset : ℤ) :
    Within (LedgerStep env) (outboundRtp env F packet buff bytesRead offset) := by
  rw [outboundRtp_eq]
  refine .bind (.modify fun _ => .quiet rfl) fun _ => .bind .get fun _ => .ite (.pure _) ?_
  refine .bind (.modify fun _ => .quiet rfl) fun _ => .bind ?_ fun _ => .bind ?_ fun _ => .pure _
  · exact .bind .get fun _ => .ite (tryStart_ledger hF) (.pure _)
  · exact fun w sent w' h => .single (.outbound packet buff bytesRead offset h)

theorem handleRtp_ledger (packet : ℕ) (inward : Bool) (buff : Mem) (bytesRead offset : ℤ)
    (source : BitVec 16) :
    Within (LedgerStep env) (handleRtp env F packet inward buff bytesRead offset source) := by
  have hR : Overlooks (LedgerStep env) fun g => (g.core, g.call, g.ledger) :=
    overlooks_quiet fun _ _ => .quiet
  have hin := prepareInbound_ledger hF
  refine .ite (.bind (.bind (hin _ _ _ _) fun r => ?_) fun _ => .pure _) (outboundRtp_ledger hF _ _ _ _)
  exact deliverInbound_within env hR (permits_address fun _ _ => .quiet) (fun _ _ _ => .quiet rfl) _ _ _

theorem processPacket_ledger (p : Packet) : Within (LedgerStep env) (processPacket env host F p) :=
  fun _ => processPacket_within env host (overlooks_quiet fun _ _ => .quiet) (fun _ _ _ => .quiet rfl)
    (permits_kind fun _ _ => .quiet) (handleRtp_ledger hF p.id)
    fun _ u _ => parseSip_ledger hF _ _ u

theorem receiveRtpMessage_ledger : Within (LedgerStep env) (receiveRtpMessage env host F) := by
  have hR : Allows (LedgerStep env) := (overlooks_calls fun _ _ => .quiet).toAllows
  exact fun _ => receiveRtpMessage_within hR (permits_flow fun _ _ => .quiet)
    (processReceivedData_within env hR hF) fun p u _ _ _ => processPacket_ledger hF p u

omit hF in
/-- The functors keep to the steps at every depth. -/
theorem functors_ledger (n : ℕ) : Holds (LedgerStep env) (functors env host n) := by
  have hR : Overlooks (LedgerStep env) fun g => (g.core, g.call, g.ledger) :=
    overlooks_quiet fun _ _ => .quiet
  have hsend := sendRtpMessage_within env hR (permits_address fun _ _ => .quiet)
  induction n with
  | zero => exact ⟨hsend, hR.onLib (unusedMessage_within env)⟩
  | succ n ih => exact ⟨hsend, receiveRtpMessage_ledger ih⟩

end Functions

/-! ## Runs -/

section Runs
variable {env : Env} {host : Host} {w w' : Process}

theorem discoverRound_ledger (n : ℕ) : Within (LedgerStep env) (discoverRound env host n) := fun w =>
  roundWith_within (.single (.quiet rfl)) fun p _ =>
    processPacket_ledger (functors_ledger n) p (dequeued (holding w))

theorem Step.ledger (h : Step env host w w') : ReflTransGen (LedgerStep env) w w' := by
  cases h with
  | arrive p => exact .single (.quiet rfl)
  | round n _ h => exact discoverRound_ledger n w () w' h
  | again n q _ _ h =>
    have hrefill : LedgerStep env w (refilled w q) := .quiet rfl
    exact .head hrefill (discoverRound_ledger n (refilled w q) () w' h)
  | tick n h =>
    have hR : Allows (LedgerStep env) := (overlooks_calls fun _ _ => .quiet).toAllows
    exact timerFired_within env hR (functors_ledger n).send w () w' h

theorem run_ledger (h : ReflTransGen (Step env host) w w') : ReflTransGen (LedgerStep env) w w' := by
  induction h with
  | refl => exact .refl
  | tail _ hstep ih => exact ih.trans hstep.ledger

end Runs

end Sqrkal.Discovery
