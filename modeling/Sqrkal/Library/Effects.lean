import Sqrkal.Library.PaddingSteps

/-! # What the library can change

Whatever its functors do, a function of the library changes the padding state by
steps of its own and sets `signaling_complete` in one place only. The results are
stated for any relation on the state of the host program that allows these steps
and holds the functors.
-/

namespace Sqrkal.Library
open Foundation Message Relation

variable {δ α : Type}

/-- The state after `signaling_complete = 1`. -/
def World.complete (w : World δ) : World δ :=
  { w with
    lib := { w.lib with flags := { w.lib.flags with signalingComplete := true } }
    log := .completed :: w.log }

/-- A relation that allows the steps of the library. -/
structure Allows (R : World δ → World δ → Prop) : Prop where
  lib : ∀ (w : World δ) (l : Lib), LibStep w.lib l → R w { w with lib := l }
  complete : ∀ w : World δ, R w w.complete

/-- A relation that the functors keep to. -/
structure Holds (R : World δ → World δ → Prop) (F : Functors δ) : Prop where
  send : ∀ d, Within R (F.send d)
  receive : Within R F.receive

section Operations
variable {R : World δ → World δ → Prop} (hR : Allows R)
include hR

theorem Allows.onLib {x : Lib.Op α} (hx : Within LibStep x) : Within R (onLib x) :=
  Within.zoom hx (fun _ => rfl) fun w l l' h => hR.lib { w with lib := l } l' h

theorem Allows.setLib {f : Lib → Lib} (hf : ∀ l, LibStep l (f l)) : Within R (setLib f) :=
  .modify fun w => hR.lib w (f w.lib) (hf w.lib)

theorem Allows.setFlags {f : Flags → Flags}
    (hf : ∀ g, (f g).signalingComplete = g.signalingComplete) : Within R (setFlags f) :=
  hR.setLib fun l => .quiet rfl (hf l.flags)

theorem Allows.completeSignaling : Within R (completeSignaling : World.Op δ Unit) :=
  .modify fun w => hR.complete w

end Operations

section Quiet
variable (env : Env)

/-- An operation that draws and constructs but keeps padding and flags. -/
theorem quiet_within {x : Lib.Op α}
    (h : ∀ l a l', x.run l = .ok (a, l') → l'.padding = l.padding ∧ l'.flags = l.flags) :
    Within LibStep x :=
  fun l a l' hr => .single (.quiet (h l a l' hr).1 (by rw [(h l a l' hr).2]))

theorem nextTick_within : Within LibStep nextTick :=
  quiet_within fun _ _ _ h => by
    cases h
    exact ⟨rfl, rfl⟩

theorem rawRand_within : Within LibStep (rawRand env) := nextTick_within.bind fun _ => .pure _

theorem rand_within (min max : ℤ) : Within LibStep (rand env min max) :=
  (rawRand_within env).bind fun _ => .pure _

theorem nextFresh_within : Within LibStep (nextFresh env) :=
  quiet_within fun _ _ _ h => by
    cases h
    exact ⟨rfl, rfl⟩

theorem createMessage_within (data : List Byte) : Within LibStep (createMessage env data) :=
  (nextFresh_within env).bind fun _ => .pure _

theorem unusedMessage_within : Within LibStep (unusedMessage env) :=
  (nextFresh_within env).bind fun _ => .pure _

theorem scratch_within : Within LibStep (scratch env) := nextTick_within.bind fun _ => .pure _

theorem signalingMessage_within (kind : BitVec 32) (options : List Byte) :
    Within LibStep (signalingMessage env kind options) :=
  (createMessage_within env options).bind fun _ => .pure _

theorem indeterminate_within : Within LibStep (indeterminate env) :=
  nextTick_within.bind fun _ => .pure _

theorem lowerMaxpacketsize_step (size : ℤ) (l : Lib) : LibStep l (lowerMaxpacketsize size l) := by
  unfold lowerMaxpacketsize
  split_ifs
  · exact .quiet rfl rfl
  · exact .quiet rfl rfl

theorem resetPacketTimer_within : Within LibStep resetPacketTimer :=
  .modify fun _ => .quiet rfl rfl

theorem resetSilenceTimer_within : Within LibStep resetSilenceTimer :=
  .modify fun _ => .quiet rfl rfl

end Quiet

section Functions
variable {R : World δ → World δ → Prop} {F : Functors δ} (env : Env)
variable (hR : Allows R)
include hR

theorem sendMessage_within (hs : ∀ d, Within R (F.send d)) (msg : SRPPMessage) :
    Within R (sendMessage env F msg) := by
  refine .ite (.pure _) (.bind (hR.onLib (scratch_within env)) fun r => .bind .get fun w =>
    .bind (.lift _) fun wire => ?_)
  exact .bind (hR.setLib fun _ => .quiet rfl rfl) fun _ => .bind (hs _) fun _ =>
    .bind (hR.setLib fun _ => .quiet rfl rfl) fun _ => .pure _

variable (hF : Holds R F)
include hF

theorem sendHellos_within (options : List Byte) (n : ℕ) : Within R (sendHellos env F options n) := by
  induction n with
  | zero => exact .pure _
  | succ n ih =>
    refine .bind .get fun w => .ite (.pure _) (.bind (hR.setFlags fun _ => rfl) fun _ => ?_)
    exact .bind (hR.onLib (signalingMessage_within env _ _)) fun msg =>
      .bind (sendMessage_within env hR hF.send msg) fun _ => ih

omit hR hF in
theorem waitFor_within (hr : Within R F.receive) (done : Flags → Bool) (n : ℕ) :
    Within R (waitFor F done n) := by
  induction n with
  | zero => exact .bind .get fun w => .ite (.pure _) (.bind hr fun _ => .pure _)
  | succ n ih => exact .bind .get fun w => .ite (.pure _) (.bind hr fun _ => ih)

theorem sendHelloMessage_within : Within R (sendHelloMessage env F) := by
  refine .bind .get fun w => .ite (.pure _) (.bind (hR.onLib (rand_within env _ _)) fun key =>
    .bind .get fun w' => .bind (hR.setLib fun _ => .quiet rfl rfl) fun _ => ?_)
  refine .bind (hR.onLib (signalingMessage_within env _ _)) fun _ =>
    .bind (sendHellos_within env hR hF _ _) fun sent => .ite (.bind .get fun w'' => .ite (.pure _) ?_)
      (.pure _)
  exact .bind (hR.onLib (unusedMessage_within env)) fun _ => .bind hF.receive fun _ =>
    waitFor_within hF.receive _ _

theorem sendHelloAckMessage_within : Within R (sendHelloAckMessage env F) := by
  refine .bind .get fun w => .ite (.pure _) (.bind .get fun w' =>
    .bind (hR.onLib (signalingMessage_within env _ _)) fun msg => .ite ?_ (.pure _))
  exact .bind (sendMessage_within env hR hF.send msg) fun _ => .bind (hR.setFlags fun _ => rfl) fun _ =>
    .bind .get fun w'' => .bind (.ite hF.receive (.pure _)) fun _ => .pure _

theorem receivedHelloMessage_within : Within R (receivedHelloMessage env F) :=
  .bind (hR.setFlags fun _ => rfl) fun _ => sendHelloAckMessage_within env hR hF

theorem receivedHelloAckMessage_within : Within R (receivedHelloAckMessage env F) := by
  refine .bind (hR.setFlags fun _ => rfl) fun _ => .bind .get fun w =>
    .bind hR.completeSignaling fun _ => ?_
  exact .bind (.ite (.pure _) (sendHelloAckMessage_within env hR hF)) fun i =>
    .bind (hR.setFlags fun _ => rfl) fun _ => .pure _

theorem sendByeAckMessage_within : Within R (sendByeAckMessage env F) := by
  refine .bind .get fun w => .ite (.pure _) ?_
  exact .bind (hR.onLib (signalingMessage_within env _ _)) fun msg =>
    .bind (sendMessage_within env hR hF.send msg) fun _ => .bind (hR.setFlags fun _ => rfl) fun _ => .pure _

theorem receivedByeMessage_within : Within R (receivedByeMessage env F) :=
  .bind (hR.setFlags fun _ => rfl) fun _ => sendByeAckMessage_within env hR hF

theorem receivedByeAckMessage_within : Within R (receivedByeAckMessage env F) :=
  .bind (hR.setFlags fun _ => rfl) fun _ => .bind .get fun _ =>
    .bind (hR.setFlags fun _ => rfl) fun _ => .ite (.pure _) (sendByeAckMessage_within env hR hF)

theorem sendByeMessage_within : Within R (sendByeMessage env F) := by
  refine .bind (hR.onLib (signalingMessage_within env _ _)) fun msg =>
    .bind (sendMessage_within env hR hF.send msg) fun _ => .bind (hR.setFlags fun _ => rfl) fun _ => ?_
  exact .bind (hR.onLib (unusedMessage_within env)) fun _ => .bind hF.receive fun _ =>
    waitFor_within hF.receive _ _

theorem stopSession_within : Within R (stopSession env F) := by
  refine .bind (hR.setLib fun _ => .quiet rfl rfl) fun _ => .bind .get fun w => .ite (.pure _)
    (.bind .get fun w' => ?_)
  exact .bind (.ite (.bind (sendByeMessage_within env hR hF) fun _ => .pure _) (.pure _)) fun _ =>
    .bind .get fun w'' => .pure _

theorem signaling_within : Within R (signaling env F) :=
  .bind (hR.onLib (rand_within env _ _)) fun _ => sendHelloMessage_within env hR hF

theorem startSession_within : Within R (startSession env F) := by
  refine .bind .get fun w => .bind (.ite (signaling_within env hR hF) (.pure _)) fun status =>
    .ite (.pure _) ?_
  exact .bind (hR.setLib fun _ => .quiet rfl rfl) fun _ => .pure _

theorem verifySignalling_within (mem : Mem) : Within R (verifySignalling env F mem) := by
  refine .bind .get fun w => .ite (.ite ?_ (hR.onLib (indeterminate_within env))) (.pure _)
  exact .bind (hR.setLib fun _ => .quiet rfl rfl) fun _ => .bind .get fun w' =>
    .ite (.bind (hR.setLib fun _ => .quiet rfl rfl) fun _ => stopSession_within env hR hF) (.pure _)

omit hF in
theorem lowerMaxpacketsize_within (size : ℤ) : Within R (setLib (lowerMaxpacketsize size)) :=
  hR.setLib (lowerMaxpacketsize_step size)

theorem dispatch_within (msg : SRPPMessage) : Within R (dispatch env F msg) := by
  refine .ite ?_ (.ite ?_ (.ite ?_ (.ite ?_ (.pure _))))
  · exact .bind (hR.setLib fun _ => .quiet rfl rfl) fun _ => .bind (lowerMaxpacketsize_within hR _)
      fun _ => .bind (receivedHelloMessage_within env hR hF) fun _ => .pure _
  · exact .bind (lowerMaxpacketsize_within hR _) fun _ =>
      .bind (receivedHelloAckMessage_within env hR hF) fun _ => .pure _
  · exact .bind (receivedByeMessage_within env hR hF) fun _ => .pure _
  · exact .bind (receivedByeAckMessage_within env hR hF) fun _ => .pure _

theorem processReceivedData_within (mem : Mem) (bytesRead : ℤ) :
    Within R (processReceivedData env F mem bytesRead) := by
  have hdispatch : ∀ r : ℤ × SRPPMessage, Within R (do
      if isSignalingMessage r.2 = 1 then
        dispatch env F r.2
        return none
      else return some r.2 : World.Op δ (Option SRPPMessage)) := fun r =>
    .ite (.bind (dispatch_within env hR hF r.2) fun _ => .pure _) (.pure _)
  refine .bind (hR.onLib (createMessage_within env [])) fun msg => .bind .get fun w =>
    .ite (.bind (.lift _) fun _ => .pure _) (.ite (.bind (.lift _) hdispatch) ?_)
  exact .bind (verifySignalling_within env hR hF mem) fun status => .bind .get fun w' =>
    .ite (.bind (.lift _) hdispatch) (.pure _)

end Functions

/-! ## Timers

The timers only send. -/

section Timers
variable {R : World δ → World δ → Prop} {F : Functors δ} (env : Env)
variable (hR : Allows R) (hs : ∀ d, Within R (F.send d))
include hR hs

theorem burstRound_within : Within R (burstRound env F) := by
  refine .bind (hR.onLib (drawDummy_within env)) fun msg => .bind .get fun w => .bind (.ite ?_ ?_)
    fun _ => .bind (hR.onLib resetPacketTimer_within) fun _ => hR.onLib resetSilenceTimer_within
  · exact .bind (sendMessage_within env hR hs msg) fun _ => .pure _
  · exact hR.setLib fun _ => .quiet rfl rfl

theorem burstLoop_within (n : ℕ) : Within R (burstLoop env F n) := by
  induction n with
  | zero => exact .pure _
  | succ n ih => exact .bind (burstRound_within env hR hs) fun _ => ih

theorem defaultCbpPadAlgo_within : Within R (defaultCbpPadAlgo env F) := by
  refine .bind .get fun w => .ite (.pure _) (.bind (hR.onLib (rand_within env _ _)) fun n =>
    .bind (burstLoop_within env hR hs _) fun _ => ?_)
  exact .bind (hR.setLib fun l => ⟨.count _, rfl⟩) fun _ =>
    .bind (hR.onLib resetPacketTimer_within) fun _ => .pure _

theorem defaultEbpPadAlgo_within : Within R (defaultEbpPadAlgo env F) :=
  .bind .get fun _ => .ite (.pure _) (.bind (hR.onLib (drawDummy_within env)) fun msg =>
    .bind (sendMessage_within env hR hs msg) fun _ => .pure _)

theorem timerFired_within : Within R (timerFired env F) := by
  refine .bind (hR.setLib fun _ => .quiet rfl rfl) fun _ => .bind .get fun w => .bind (.ite ?_ (.pure _))
    fun _ => .bind .get fun w' => .ite ?_ (.pure _)
  · exact .bind (defaultCbpPadAlgo_within env hR hs) fun _ => hR.onLib resetPacketTimer_within
  · exact .bind (defaultEbpPadAlgo_within env hR hs) fun _ => hR.onLib resetSilenceTimer_within

end Timers

end Sqrkal.Library
