import Sqrkal.Library.Burst

/-! # Functors that do less

If the functors of a host program stop in some states in which others go on, and do the
same otherwise, so does every function of the library that is given them.
-/

namespace Sqrkal.Library
open Foundation Message

variable {δ : Type}

/-- The first functors do what the second ones do, wherever they return. -/
structure Functors.Refine (F G : Functors δ) : Prop where
  send : ∀ d, Refines (F.send d) (G.send d)
  receive : Refines F.receive G.receive

section Functions
variable {F G : Functors δ} (env : Env) (h : F.Refine G)
include h

theorem sendMessage_refines (msg : SRPPMessage) :
    Refines (sendMessage env F msg) (sendMessage env G msg) :=
  .ite (.refl _) (.bind (.refl _) fun _ => .bind (.refl _) fun _ => .bind (.refl _) fun _ =>
    .bind (.refl _) fun _ => .bind (h.send _) fun _ => .refl _)

theorem sendHellos_refines (options : List Byte) (n : ℕ) :
    Refines (sendHellos env F options n) (sendHellos env G options n) := by
  induction n with
  | zero => exact .refl _
  | succ n ih =>
    exact .bind (.refl _) fun _ => .ite (.refl _) (.bind (.refl _) fun _ => .bind (.refl _) fun msg =>
      .bind (sendMessage_refines env h msg) fun _ => ih)

theorem waitFor_refines (done : Flags → Bool) (n : ℕ) :
    Refines (waitFor F done n) (waitFor G done n) := by
  induction n with
  | zero => exact .bind (.refl _) fun _ => .ite (.refl _) (.bind h.receive fun _ => .refl _)
  | succ n ih => exact .bind (.refl _) fun _ => .ite (.refl _) (.bind h.receive fun _ => ih)

theorem sendHelloMessage_refines : Refines (sendHelloMessage env F) (sendHelloMessage env G) := by
  refine .bind (.refl _) fun _ => .ite (.refl _) (.bind (.refl _) fun _ => .bind (.refl _) fun _ =>
    .bind (.refl _) fun _ => .bind (.refl _) fun _ => ?_)
  refine .bind (sendHellos_refines env h _ _) fun _ => .ite (.bind (.refl _) fun _ =>
    .ite (.refl _) ?_) (.refl _)
  exact .bind (.refl _) fun _ => .bind h.receive fun _ => waitFor_refines h _ _

theorem sendHelloAckMessage_refines :
    Refines (sendHelloAckMessage env F) (sendHelloAckMessage env G) := by
  refine .bind (.refl _) fun _ => .ite (.refl _) (.bind (.refl _) fun _ => .bind (.refl _) fun msg =>
    .ite ?_ (.refl _))
  exact .bind (sendMessage_refines env h msg) fun _ => .bind (.refl _) fun _ => .bind (.refl _) fun _ =>
    .bind (.ite h.receive (.refl _)) fun _ => .refl _

theorem signaling_refines : Refines (signaling env F) (signaling env G) :=
  .bind (.refl _) fun _ => sendHelloMessage_refines env h

theorem receivedHelloMessage_refines :
    Refines (receivedHelloMessage env F) (receivedHelloMessage env G) :=
  .bind (.refl _) fun _ => sendHelloAckMessage_refines env h

theorem receivedHelloAckMessage_refines :
    Refines (receivedHelloAckMessage env F) (receivedHelloAckMessage env G) :=
  .bind (.refl _) fun _ => .bind (.refl _) fun _ => .bind (.refl _) fun _ =>
    .bind (.ite (.refl _) (sendHelloAckMessage_refines env h)) fun _ => .refl _

theorem sendByeAckMessage_refines : Refines (sendByeAckMessage env F) (sendByeAckMessage env G) :=
  .bind (.refl _) fun _ => .ite (.refl _) (.bind (.refl _) fun msg =>
    .bind (sendMessage_refines env h msg) fun _ => .refl _)

theorem receivedByeMessage_refines : Refines (receivedByeMessage env F) (receivedByeMessage env G) :=
  .bind (.refl _) fun _ => sendByeAckMessage_refines env h

theorem receivedByeAckMessage_refines :
    Refines (receivedByeAckMessage env F) (receivedByeAckMessage env G) :=
  .bind (.refl _) fun _ => .bind (.refl _) fun _ => .bind (.refl _) fun _ =>
    .ite (.refl _) (sendByeAckMessage_refines env h)

theorem sendByeMessage_refines : Refines (sendByeMessage env F) (sendByeMessage env G) :=
  .bind (.refl _) fun msg => .bind (sendMessage_refines env h msg) fun _ => .bind (.refl _) fun _ =>
    .bind (.refl _) fun _ => .bind h.receive fun _ => waitFor_refines h _ _

theorem stopSession_refines : Refines (stopSession env F) (stopSession env G) := by
  refine .bind (.refl _) fun _ => .bind (.refl _) fun _ => .ite (.refl _) (.bind (.refl _) fun _ => ?_)
  exact .bind (.ite (.bind (sendByeMessage_refines env h) fun _ => .refl _) (.refl _)) fun _ => .refl _

theorem startSession_refines : Refines (startSession env F) (startSession env G) :=
  .bind (.refl _) fun _ => .bind (.ite (signaling_refines env h) (.refl _)) fun _ => .refl _

theorem verifySignalling_refines (mem : Mem) :
    Refines (verifySignalling env F mem) (verifySignalling env G mem) := by
  refine .bind (.refl _) fun _ => .ite (.ite ?_ (.refl _)) (.refl _)
  exact .bind (.refl _) fun _ => .bind (.refl _) fun _ =>
    .ite (.bind (.refl _) fun _ => stopSession_refines env h) (.refl _)

theorem dispatch_refines (msg : SRPPMessage) : Refines (dispatch env F msg) (dispatch env G msg) := by
  refine .ite ?_ (.ite ?_ (.ite ?_ (.ite ?_ (.refl _))))
  · exact .bind (.refl _) fun _ => .bind (.refl _) fun _ =>
      .bind (receivedHelloMessage_refines env h) fun _ => .refl _
  · exact .bind (.refl _) fun _ => .bind (receivedHelloAckMessage_refines env h) fun _ => .refl _
  · exact .bind (receivedByeMessage_refines env h) fun _ => .refl _
  · exact .bind (receivedByeAckMessage_refines env h) fun _ => .refl _

theorem processReceivedData_refines (mem : Mem) (bytesRead : ℤ) :
    Refines (processReceivedData env F mem bytesRead) (processReceivedData env G mem bytesRead) := by
  have hdispatch : ∀ r : ℤ × SRPPMessage, Refines
      (do
        if isSignalingMessage r.2 = 1 then
          dispatch env F r.2
          return none
        else return some r.2 : World.Op δ (Option SRPPMessage))
      (do
        if isSignalingMessage r.2 = 1 then
          dispatch env G r.2
          return none
        else return some r.2) := fun r =>
    .ite (.bind (dispatch_refines env h r.2) fun _ => .refl _) (.refl _)
  refine .bind (.refl _) fun _ => .bind (.refl _) fun _ =>
    .ite (.refl _) (.ite (.bind (.refl _) hdispatch) ?_)
  exact .bind (verifySignalling_refines env h mem) fun _ => .bind (.refl _) fun _ =>
    .ite (.bind (.refl _) hdispatch) (.refl _)

/-! ## Timers -/

theorem burstLoop_refines (n : ℕ) : Refines (burstLoop env F n) (burstLoop env G n) := by
  induction n with
  | zero => exact .refl _
  | succ n ih =>
    refine .bind ?_ fun _ => ih
    exact .bind (.refl _) fun msg => .bind (.refl _) fun _ =>
      .bind (.ite (.bind (sendMessage_refines env h msg) fun _ => .refl _) (.refl _)) fun _ => .refl _

theorem timerFired_refines : Refines (timerFired env F) (timerFired env G) := by
  have hcbp : Refines (defaultCbpPadAlgo env F) (defaultCbpPadAlgo env G) :=
    .bind (.refl _) fun _ => .ite (.refl _) (.bind (.refl _) fun _ =>
      .bind (burstLoop_refines env h _) fun _ => .refl _)
  have hebp : Refines (defaultEbpPadAlgo env F) (defaultEbpPadAlgo env G) :=
    .bind (.refl _) fun _ => .ite (.refl _) (.bind (.refl _) fun msg =>
      .bind (sendMessage_refines env h msg) fun _ => .refl _)
  refine .bind (.refl _) fun _ => .bind (.refl _) fun _ => .bind (.ite (.bind hcbp fun _ => .refl _)
    (.refl _)) fun _ => .bind (.refl _) fun _ => .ite (.bind hebp fun _ => .refl _) (.refl _)

end Functions

end Sqrkal.Library
