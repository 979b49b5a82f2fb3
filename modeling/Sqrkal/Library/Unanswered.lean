import Sqrkal.Library.Effects

/-! # What the library does without sending

A BYE and a BYEACK have no text, and a message without text is not sent. So the send
functor is reached only where a HELLO is sent or a HELLO or HELLOACK is answered.
-/

namespace Sqrkal.Library
open Foundation Message Relation

variable {δ : Type}

/-- A signalling message of a given type would be answered by a HELLOACK. -/
def isAnswered (f : Flags) (kind : BitVec 32) : Bool :=
  !f.helloacksent && (kind = 12 && (!f.helloackrecvd || f.hellosent) || kind = 13 && f.hellosent)

section Silent
variable {R : World δ → World δ → Prop} {F : Functors δ} (env : Env) (hR : Allows R)
include hR

/-- A message without text only moves the counter. -/
theorem emptySignal_within {α : Type} {x : World.Op δ α} (kind : BitVec 32) (hx : Within R x) :
    Within R (do
      let msg ← onLib (signalingMessage env kind [])
      let _ ← sendMessage env F msg
      x) :=
  fun w => .of_run_eq (t := { w with lib := w.lib.constructed }) rfl
    (.single (hR.lib w w.lib.constructed (.quiet rfl rfl))) (hx _)

theorem stopSession_silent (hr : Within R F.receive) : Within R (stopSession env F) := by
  have hbye : Within R (sendByeMessage env F) :=
    emptySignal_within env hR 22 (.bind (hR.setFlags fun _ => rfl) fun _ =>
      .bind (hR.onLib (unusedMessage_within env)) fun _ => .bind hr fun _ => waitFor_within hr _ _)
  refine .bind (hR.setLib fun _ => .quiet rfl rfl) fun _ => .bind .get fun _ => .ite (.pure _)
    (.bind .get fun _ => ?_)
  exact .bind (.ite (.bind hbye fun _ => .pure _) (.pure _)) fun _ => .bind .get fun _ => .pure _

theorem sendByeAckMessage_silent : Within R (sendByeAckMessage env F) :=
  .bind .get fun _ => .ite (.pure _)
    (emptySignal_within env hR 23 (.bind (hR.setFlags fun _ => rfl) fun _ => .pure _))

/-- A HELLOACK is not sent twice, and not to one who has sent one first. -/
theorem sendHelloAckMessage_silent {w : World δ}
    (h : w.lib.flags.helloacksent = true ∨
      w.lib.flags.helloackrecvd = true ∧ w.lib.flags.hellosent = false) :
    WithinAt R w (sendHelloAckMessage env F) := by
  refine .get_bind ?_
  dsimp only
  by_cases hnone : (!w.lib.flags.hellorecvd && !w.lib.flags.hellosent || w.lib.flags.helloacksent) = true
  · rw [if_pos hnone]
    exact Within.pure _ w
  rw [if_neg hnone]
  have hsilent : ¬(!w.lib.flags.helloackrecvd || w.lib.flags.hellosent) = true := by
    rcases h with hsent | ⟨hrecvd, hhello⟩
    · exact absurd (by simp [hsent]) hnone
    · simp [hrecvd, hhello]
  refine .get_bind (WithinAt.bind (hR.onLib (signalingMessage_within env _ _) w) fun msg u _ => ?_)
  rw [if_neg hsilent]
  exact Within.pure _ u

theorem receivedHelloAckMessage_silent {w : World δ}
    (h : w.lib.flags.helloacksent = true ∨ w.lib.flags.hellosent = false) :
    WithinAt R w (receivedHelloAckMessage env F) := by
  refine .modify_bind (.single (hR.lib _ _ (.quiet rfl rfl))) (.get_bind
    (.modify_bind (.single (hR.complete _)) (WithinAt.bind ?_ fun _ u _ => ?_)))
  · dsimp only
    split_ifs with hs
    · exact Within.pure _ _
    · refine sendHelloAckMessage_silent env hR (.inr ⟨rfl, ?_⟩)
      exact h.resolve_left hs
  · exact .modify_bind (.single (hR.lib u _ (.quiet rfl rfl))) (Within.pure _ _)

theorem receivedByeMessage_silent : Within R (receivedByeMessage env F) :=
  .bind (hR.setFlags fun _ => rfl) fun _ => sendByeAckMessage_silent env hR

theorem receivedByeAckMessage_silent : Within R (receivedByeAckMessage env F) :=
  .bind (hR.setFlags fun _ => rfl) fun _ => .bind .get fun _ =>
    .bind (hR.setFlags fun _ => rfl) fun _ => .ite (.pure _) (sendByeAckMessage_silent env hR)

theorem dispatch_silent {w : World δ} {msg : SRPPMessage}
    (h : isAnswered w.lib.flags msg.srppHeader.srppSignalling = false) :
    WithinAt R w (dispatch env F msg) := by
  unfold dispatch
  dsimp only
  split_ifs with h12 h13 h22 h23
  · have hw : w.lib.flags.helloacksent = true ∨
        w.lib.flags.helloackrecvd = true ∧ w.lib.flags.hellosent = false := by
      rw [h12] at h
      cases hs : w.lib.flags.helloacksent with
      | true => exact .inl rfl
      | false => exact .inr (by simpa [isAnswered, hs] using h)
    refine .modify_bind (.single (hR.lib _ _ (.quiet rfl rfl)))
      (.modify_bind (.single (hR.lib _ _ (lowerMaxpacketsize_step _ _))) (WithinAt.bind_pure ?_))
    refine .modify_bind (.single (hR.lib _ _ (.quiet rfl rfl))) (sendHelloAckMessage_silent env hR ?_)
    dsimp only
    rw [lowerMaxpacketsize_flags]
    exact hw
  · have hw : w.lib.flags.helloacksent = true ∨ w.lib.flags.hellosent = false := by
      rw [h13] at h
      cases hs : w.lib.flags.helloacksent with
      | true => exact .inl rfl
      | false => exact .inr (by simpa [isAnswered, hs] using h)
    refine .modify_bind (.single (hR.lib _ _ (lowerMaxpacketsize_step _ _)))
      (WithinAt.bind_pure (receivedHelloAckMessage_silent env hR ?_))
    dsimp only
    rw [lowerMaxpacketsize_flags]
    exact hw
  · exact WithinAt.bind_pure (receivedByeMessage_silent env hR w)
  · exact WithinAt.bind_pure (receivedByeAckMessage_silent env hR w)
  · exact Within.pure _ w

/-- A signalling message that is not answered sends nothing. -/
theorem processReceivedData_silent {w : World δ} {mem : Mem} (bytesRead : ℤ)
    (hsig : isSignalingBuffer mem = 1)
    (h : isAnswered w.lib.flags (SRPPHeader.load mem 0).ofWire.srppSignalling = false) :
    WithinAt R w (processReceivedData env F mem bytesRead) := by
  refine .of_run_eq (run_bind_ok (onLib_run (createMessage_run w.lib env [])))
    (.single (hR.lib w _ (.quiet rfl rfl))) (.get_bind ?_)
  dsimp only
  split_ifs with hout
  · exact Within.bind (.lift _) (fun _ => .pure _) _
  · refine WithinAt.bind (Within.lift _ _) fun r u hrun => ?_
    rcases run_lift_eq_ok hrun with ⟨hdecoded, rfl⟩
    split_ifs
    · refine WithinAt.bind_pure (dispatch_silent env hR ?_)
      rw [networkToSrpp_srppHeader hdecoded]
      exact h
    · exact Within.pure _ _

end Silent

end Sqrkal.Library
