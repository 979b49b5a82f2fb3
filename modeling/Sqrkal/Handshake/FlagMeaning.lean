import Sqrkal.Handshake.Moves

/-! # What the flags stand for

A completion flag is set by the handler of an acknowledgement, before anything has
been looked at, so it stands for the acknowledgement alone. The flags for sent HELLOs
and HELLOACKs stand for datagrams; those for BYE and BYEACK are set after a
`send_message` that sends nothing, because the message has no payload.
-/

namespace Sqrkal.Handshake
open Foundation Message Library

/-! ## Completion -/

/-- A datagram of a type has been sent or received. -/
def Exchanged (kind : BitVec 32) (h : List Exchange) : Prop := sentOf kind h ≠ [] ∨ HasReceived kind h

instance (kind : BitVec 32) (h : List Exchange) : Decidable (Exchanged kind h) :=
  inferInstanceAs (Decidable (_ ∨ _))

/-- A HELLO has been sent or received. -/
abbrev HelloExchanged : List Exchange → Prop := Exchanged 12

/-- A BYE has been sent or received. -/
abbrev ByeExchanged : List Exchange → Prop := Exchanged 22

/-- Completion needs the exchange it completes. -/
structure IsEarned (f : Flags) (h : List Exchange) : Prop where
  signaling : f.signalingComplete = true → HelloExchanged h
  session : f.sessionComplete = true → ByeExchanged h

/-- Every acknowledgement that is received has something to acknowledge. -/
def Solicited : List Exchange → Prop
  | [] => True
  | .received mem _ :: h =>
    ((signalKind mem = some 13 → HelloExchanged h) ∧ (signalKind mem = some 23 → ByeExchanged h)) ∧
      Solicited h
  | _ :: h => Solicited h

instance decidableSolicited : (h : List Exchange) → Decidable (Solicited h)
  | [] => .isTrue trivial
  | .received mem _ :: h =>
    @instDecidableAnd _ _ (inferInstanceAs (Decidable ((signalKind mem = some 13 → HelloExchanged h) ∧
      (signalKind mem = some 23 → ByeExchanged h)))) (decidableSolicited h)
  | .sent _ :: h => decidableSolicited h
  | .stopping _ :: h => decidableSolicited h
  | .stopped _ _ :: h => decidableSolicited h
  | .control _ :: h => decidableSolicited h

/-- A completion flag stands for an acknowledgement. -/
structure Acknowledged (f : Flags) (h : List Exchange) : Prop where
  signaling : f.signalingComplete = true → HasReceived 13 h
  session : f.sessionComplete = true → HasReceived 23 h

theorem Acknowledged.extend {f f' : Flags} {h : List Exchange} (ha : Acknowledged f h)
    (later : List Exchange) (hs : f'.signalingComplete = f.signalingComplete)
    (hc : f'.sessionComplete = f.sessionComplete) : Acknowledged f' (later ++ h) where
  signaling hf := (ha.signaling (hs ▸ hf)).append later
  session hf := (ha.session (hc ▸ hf)).append later

theorem Move.acknowledged {f f' : Flags} {h h' : List Exchange} (hm : Move f h f' h')
    (ha : Acknowledged f h) : Acknowledged f' h' := by
  cases hm with
  | control => exact ha.extend [_] rfl rfl
  | arrival mem n => exact ha.extend [_] rfl rfl
  | stopping k => exact ha.extend [_] rfl rfl
  | stopped k status _ => exact ha.extend [_] rfl rfl
  | hello key psize ds _ _ _ _ => exact ha.extend _ rfl rfl
  | helloAck psize d _ _ => exact ha.extend [_] rfl rfl
  | complete received => exact ⟨fun _ => received, ha.session⟩
  | byeAckReceived received => exact ⟨ha.signaling, fun _ => received⟩
  | _ => exact ha.extend [] rfl rfl

theorem Exchanged.append {kind : BitVec 32} {h : List Exchange} (hx : Exchanged kind h)
    (later : List Exchange) : Exchanged kind (later ++ h) := by
  rcases hx with hs | hr
  · left
    rw [sentOf_append]
    exact fun hn => hs (List.append_eq_nil_iff.mp hn).2
  · exact Or.inr (hr.append later)

theorem Solicited.tail {e : Exchange} {h : List Exchange} (hs : Solicited (e :: h)) : Solicited h := by
  cases e with
  | received mem n => exact hs.2
  | _ => exact hs

theorem Solicited.suffix {later h : List Exchange} (hs : Solicited (later ++ h)) : Solicited h := by
  induction later with
  | nil => exact hs
  | cons e later ih => exact ih hs.tail

/-- The datagram of a type among those received, with what came before it. -/
theorem HasReceived.split {kind : BitVec 32} {h : List Exchange} (hr : HasReceived kind h) :
    ∃ later mem n earlier, h = later ++ .received mem n :: earlier ∧ signalKind mem = some kind := by
  rcases hr with ⟨mem, n, hm, hk⟩
  rcases List.append_of_mem hm with ⟨later, earlier, rfl⟩
  exact ⟨later, mem, n, earlier, rfl, hk⟩

theorem Solicited.hello {h : List Exchange} (hs : Solicited h) (hr : HasReceived 13 h) :
    HelloExchanged h := by
  rcases hr.split with ⟨later, mem, n, earlier, rfl, hk⟩
  rw [List.append_cons]
  exact (hs.suffix.1.1 hk).append _

theorem Solicited.bye {h : List Exchange} (hs : Solicited h) (hr : HasReceived 23 h) :
    ByeExchanged h := by
  rcases hr.split with ⟨later, mem, n, earlier, rfl, hk⟩
  rw [List.append_cons]
  exact (hs.suffix.1.2 hk).append _

/-- In every run in which each HELLOACK comes after a HELLO and each BYEACK after a BYE, in
either direction, completion is earned at every moment. -/
theorem completion_earned_of_solicited (env : Env) (answer : List Byte → ℤ) (n : ℕ) (l : Lib)
    (script : List (List Call)) (calls : List Call) (w : World Caller)
    (hrun : (performAll env (callerFunctors env answer n) calls).run (untouched l script) =
      .ok ((), w)) (hs : Solicited w.ext.history) :
    AtControl IsEarned w.ext.history := by
  have hstart : Acknowledged {} [] := ⟨by simp, by simp⟩
  have hack := (run_holds env (fun _ _ _ _ => Move.acknowledged) hstart hrun).2
  intro later f earlier heq
  have ha := hack later f earlier heq
  rw [heq] at hs
  have hbefore := hs.suffix.tail
  exact ⟨fun hf => hbefore.hello (ha.signaling hf), fun hf => hbefore.bye (ha.session hf)⟩

/-- A check of the flags and the history before them, at a control in the end. -/
def endCheck (check : Flags → List Exchange → Bool) (w : World Caller) : Bool :=
  match w.ext.history with
  | .control f :: h => check f h
  | _ => false

theorem control_of_endCheck {check : Flags → List Exchange → Bool} {w : World Caller}
    (h : endCheck check w = true) :
    ∃ f earlier, w.ext.history = [] ++ .control f :: earlier ∧ check f earlier = true := by
  unfold endCheck at h
  split at h
  · exact ⟨_, _, by assumption, h⟩
  · cases h

/-- A HELLOACK and a BYEACK out of the blue complete signalling and session. -/
theorem unsolicited_acks_complete : ∃ w,
    (performAll (Env.constant 0) (callerFunctors (Env.constant 0) (fun _ => 0) 0)
      [.received (bareSignal 13) 92, .received (bareSignal 23) 92]).run
      (untouched (Lib.start (Env.constant 0)) []) = .ok ((), w) ∧
    ¬AtControl (fun f h => f.signalingComplete = true → HelloExchanged h) w.ext.history ∧
    ¬AtControl (fun f h => f.sessionComplete = true → ByeExchanged h) w.ext.history := by
  have hcheck : endsIn
      (performAll (Env.constant 0) (callerFunctors (Env.constant 0) (fun _ => 0) 0)
        [.received (bareSignal 13) 92, .received (bareSignal 23) 92])
      (untouched (Lib.start (Env.constant 0)) [])
      (endCheck fun f h => f.signalingComplete && f.sessionComplete &&
        !decide (HelloExchanged h) && !decide (ByeExchanged h)) = true := by decide +kernel
  rcases endsIn_run hcheck with ⟨_, w, hrun, hw⟩
  rcases control_of_endCheck hw with ⟨f, earlier, heq, hf⟩
  simp only [Bool.and_eq_true, Bool.not_eq_true', decide_eq_false_iff_not] at hf
  exact ⟨w, hrun, fun hc => hf.1.2 (hc [] f earlier heq hf.1.1.1),
    fun hc => hf.2 (hc [] f earlier heq hf.1.1.2)⟩

/-- A HELLOACK that answers a HELLO. -/
theorem completion_earned_of_solicited_answer : ∃ w,
    (performAll (Env.constant 0) (callerFunctors (Env.constant 0) (fun _ => 0) 1) [.signaling]).run
      (untouched (Lib.start (Env.constant 0)) [[.received (bareSignal 13) 92]]) = .ok ((), w) ∧
    w.lib.flags.signalingComplete = true ∧ Solicited w.ext.history ∧
    AtControl IsEarned w.ext.history := by
  have hcheck : endsIn
      (performAll (Env.constant 0) (callerFunctors (Env.constant 0) (fun _ => 0) 1) [.signaling])
      (untouched (Lib.start (Env.constant 0)) [[.received (bareSignal 13) 92]])
      (fun w => w.lib.flags.signalingComplete && decide (Solicited w.ext.history)) = true := by
    decide +kernel
  rcases endsIn_run hcheck with ⟨_, w, hrun, hw⟩
  rw [Bool.and_eq_true, decide_eq_true_eq] at hw
  exact ⟨w, hrun, hw.1, hw.2, completion_earned_of_solicited _ _ _ _ _ _ w hrun hw.2⟩

/-! ## Sent flags -/

/-- Every flag for a sent message stands for a datagram of its type. -/
structure IsTruthful (f : Flags) (h : List Exchange) : Prop where
  hello : f.hellosent = true → sentOf 12 h ≠ []
  helloAck : f.helloacksent = true → sentOf 13 h ≠ []
  bye : f.byesent = true → sentOf 22 h ≠ []
  byeAck : f.byeacksent = true → sentOf 23 h ≠ []

/-- `stop_session` has been called while SRPP was enabled. -/
def HasStopped (h : List Exchange) : Prop := ∃ k : ℤ, k ≠ 0 ∧ .stopping k ∈ h

/-- What stands behind the flags for sent messages, and behind the end of a session. -/
structure IsAccounted (f : Flags) (h : List Exchange) : Prop where
  hello : f.hellosent = true → sentOf 12 h ≠ []
  helloAck : f.helloacksent = true → sentOf 13 h ≠ []
  noBye : sentOf 22 h = []
  noByeAck : sentOf 23 h = []
  bye : f.byesent = true → HasStopped h
  byeReceived : f.byerecvd = true → HasReceived 22 h
  byeAck : f.byeacksent = true → HasReceived 22 h ∨ HasStopped h

theorem HasStopped.append {h : List Exchange} (hs : HasStopped h) (later : List Exchange) :
    HasStopped (later ++ h) := by
  rcases hs with ⟨k, hk, hm⟩
  exact ⟨k, hk, List.mem_append_right _ hm⟩

/-- The history goes on without a BYE or a BYEACK. -/
theorem IsAccounted.extend {f : Flags} {h : List Exchange} (ha : IsAccounted f h)
    (later : List Exchange) (h22 : sentOf 22 later = []) (h23 : sentOf 23 later = []) :
    IsAccounted f (later ++ h) where
  hello hf := by
    rw [sentOf_append]
    exact fun hn => ha.hello hf (List.append_eq_nil_iff.mp hn).2
  helloAck hf := by
    rw [sentOf_append]
    exact fun hn => ha.helloAck hf (List.append_eq_nil_iff.mp hn).2
  noBye := by rw [sentOf_append, h22, ha.noBye, List.append_nil]
  noByeAck := by rw [sentOf_append, h23, ha.noByeAck, List.append_nil]
  bye hf := (ha.bye hf).append later
  byeReceived hf := (ha.byeReceived hf).append later
  byeAck hf := (ha.byeAck hf).imp (fun hr => hr.append later) fun hs => hs.append later

theorem Move.accounted {f f' : Flags} {h h' : List Exchange} (hm : Move f h f' h')
    (ha : IsAccounted f h) : IsAccounted f' h' := by
  cases hm with
  | control => exact ha.extend [_] rfl rfl
  | arrival mem n => exact ha.extend [_] rfl rfl
  | stopping k => exact ha.extend [_] rfl rfl
  | stopped k status _ => exact ha.extend [_] rfl rfl
  | hello key psize ds _ _ count hellos =>
    have hkind (d : List Byte) (hd : d ∈ ds) : datagramKind d = some 12 :=
      (hellos d hd).datagramKind (by decide)
    have hext := ha.extend (ds.map .sent) (by rw [sentOf_map_sent hkind, if_neg (by decide)])
      (by rw [sentOf_map_sent hkind, if_neg (by decide)])
    refine { hext with hello := fun _ => ?_ }
    rw [sentOf_append, sentOf_map_sent hkind, if_pos rfl]
    intro hn
    rw [(List.append_eq_nil_iff.mp hn).1] at count
    cases count
  | helloAck psize d _ ack =>
    have hkind : datagramKind d = some 13 := ack.datagramKind (by decide)
    have hext := ha.extend [.sent d] (by rw [sentOf, hkind, if_neg (by decide)]; rfl)
      (by rw [sentOf, hkind, if_neg (by decide)]; rfl)
    refine { hext with helloAck := fun _ => ?_ }
    rw [sentOf, hkind, if_pos rfl]
    exact List.cons_ne_nil _ _
  | settle _ => exact { ha with hello := fun hf => by cases hf }
  | byeReceived received => exact { ha with byeReceived := fun _ => received }
  | byeAck ending => exact { ha with byeAck := fun _ => ending.imp ha.byeReceived ha.bye }
  | bye k enabled stopped => exact { ha with bye := fun _ => ⟨k, enabled, stopped⟩ }
  | _ => exact { ha with }

/-- The flags are truthful exactly as long as neither of the last two is set. -/
theorem IsAccounted.truthful_iff {f : Flags} {h : List Exchange} (ha : IsAccounted f h) :
    IsTruthful f h ↔ f.byesent = false ∧ f.byeacksent = false := by
  constructor
  · intro ht
    constructor
    · exact Bool.eq_false_of_not_eq_true fun hf => ht.bye hf ha.noBye
    · exact Bool.eq_false_of_not_eq_true fun hf => ht.byeAck hf ha.noByeAck
  · rintro ⟨hb, hba⟩
    exact ⟨ha.hello, ha.helloAck, by simp [hb], by simp [hba]⟩

/-- In every run that receives no BYE and does not stop an enabled session, the flags are
truthful at every moment. In every run they are truthful as long as `byesent` and
`byeacksent` are zero and at no other moment, and no BYE or BYEACK is sent. -/
theorem sentFlags_truthful_of_unended (env : Env) (answer : List Byte → ℤ) (n : ℕ) (l : Lib)
    (script : List (List Call)) (calls : List Call) (w : World Caller)
    (hrun : (performAll env (callerFunctors env answer n) calls).run (untouched l script) =
      .ok ((), w)) :
    (¬HasReceived 22 w.ext.history → ¬HasStopped w.ext.history → AtControl IsTruthful w.ext.history) ∧
    AtControl (fun f h => IsTruthful f h ↔ f.byesent = false ∧ f.byeacksent = false) w.ext.history ∧
    sentOf 22 w.ext.history = [] ∧ sentOf 23 w.ext.history = [] := by
  have hstart : IsAccounted {} [] :=
    ⟨by simp, by simp, rfl, rfl, by simp, by simp, by simp⟩
  rcases run_holds env (fun _ _ _ _ => Move.accounted) hstart hrun with ⟨hend, hcontrol⟩
  refine ⟨fun hbye hstop later f earlier heq => ?_, fun later f earlier heq =>
    (hcontrol later f earlier heq).truthful_iff, hend.noBye, hend.noByeAck⟩
  have ha := hcontrol later f earlier heq
  rw [heq, List.append_cons] at hbye hstop
  rw [ha.truthful_iff]
  constructor
  · exact Bool.eq_false_of_not_eq_true fun hf => hstop ((ha.bye hf).append _)
  · apply Bool.eq_false_of_not_eq_true
    intro hf
    rcases ha.byeAck hf with hr | hs
    · exact hbye (hr.append _)
    · exact hstop (hs.append _)

/-- A `stop_session` that the peer acknowledges: `byesent` is set and nothing was sent. -/
theorem byesent_without_bye : ∃ w,
    (performAll (Env.constant 0) (callerFunctors (Env.constant 0) (fun _ => 0) 1) [.stopSession]).run
      (untouched (Lib.start (Env.constant 0)) [[.received (bareSignal 23) 92]]) = .ok ((), w) ∧
    ¬AtControl IsTruthful w.ext.history := by
  have hcheck : endsIn
      (performAll (Env.constant 0) (callerFunctors (Env.constant 0) (fun _ => 0) 1) [.stopSession])
      (untouched (Lib.start (Env.constant 0)) [[.received (bareSignal 23) 92]])
      (endCheck fun f h => f.byesent && (sentOf 22 h).isEmpty) = true := by decide +kernel
  rcases endsIn_run hcheck with ⟨_, w, hrun, hw⟩
  rcases control_of_endCheck hw with ⟨f, earlier, heq, hf⟩
  rw [Bool.and_eq_true, List.isEmpty_iff] at hf
  exact ⟨w, hrun, fun hc => (hc [] f earlier heq).bye hf.1 hf.2⟩

theorem sentFlags_truthful_of_unended_answer : ∃ w,
    (performAll (Env.constant 0) (callerFunctors (Env.constant 0) (fun _ => 0) 1) [.signaling]).run
      (untouched (Lib.start (Env.constant 0)) [[.received (bareSignal 13) 92]]) = .ok ((), w) ∧
    (¬HasReceived 22 w.ext.history → ¬HasStopped w.ext.history → AtControl IsTruthful w.ext.history) ∧
    AtControl (fun f h => IsTruthful f h ↔ f.byesent = false ∧ f.byeacksent = false) w.ext.history ∧
    sentOf 22 w.ext.history = [] ∧ sentOf 23 w.ext.history = [] := by
  have hcheck : endsIn
      (performAll (Env.constant 0) (callerFunctors (Env.constant 0) (fun _ => 0) 1) [.signaling])
      (untouched (Lib.start (Env.constant 0)) [[.received (bareSignal 13) 92]])
      (fun w => w.lib.flags.helloacksent) = true := by decide +kernel
  rcases endsIn_run hcheck with ⟨_, w, hrun, -⟩
  exact ⟨w, hrun, sentFlags_truthful_of_unended _ _ _ _ _ _ w hrun⟩

end Sqrkal.Handshake
