import Sqrkal.Handshake.Completion
import Sqrkal.Handshake.FlagMeaning

/-! # The teardown does not complete

A BYE has no payload, and `send_message` does not send a message without payload. So an
endpoint whose peer runs this library too never receives a BYE or a BYEACK. Whatever it is
called with, also within its own reads, the session is not complete at any time, and
`stop_session` waits as long as it can and fails.
-/

namespace Sqrkal.Handshake
open Foundation Message Library Relation

/-! ## How long a call waits -/

section Waiting
variable {δ : Type} (env : Env) {F : Functors δ} {w w' : World δ} {status : ℤ}

/-- A number of reads. -/
def receives (F : Functors δ) : ℕ → World.Op δ Unit
  | 0 => pure ()
  | n + 1 => do
    F.receive
    receives F n

/-- Without the flag at its end, a wait has made all its reads. -/
theorem waitFor_exhausted {done : Flags → Bool} {n : ℕ} (h : (waitFor F done n).run w = .ok (status, w'))
    (hd : done w'.lib.flags = false) : status = -1 ∧ (receives F (n + 1)).run w = .ok ((), w') := by
  induction n generalizing w with
  | zero =>
    rw [waitFor, run_get_bind] at h
    split_ifs at h with hf
    · cases h
      rw [hf] at hd
      cases hd
    · rcases run_bind_eq_ok h with ⟨_, u, hr, hu⟩
      cases hu
      exact ⟨rfl, run_bind_ok hr⟩
  | succ n ih =>
    rw [waitFor, run_get_bind] at h
    split_ifs at h with hf
    · cases h
      rw [hf] at hd
      cases hd
    · rcases run_bind_eq_ok h with ⟨_, u, hr, hwait⟩
      rcases ih hwait with ⟨hstatus, hreads⟩
      exact ⟨hstatus, (run_bind_ok hr).trans hreads⟩

/-- The state in which `sendByeMessage` starts to read: the flag is set, and nothing was sent. -/
def byeSent (w : World δ) : World δ :=
  { w with lib := { w.lib.constructed.constructed with flags := { w.lib.flags with byesent := true } } }

theorem sendByeMessage_run (F : Functors δ) (w : World δ) : (sendByeMessage env F).run w =
    (do F.receive; waitFor F Flags.sessionComplete 30000 : World.Op δ ℤ).run (byeSent w) := rfl

/-- A call of `stop_session` in an enabled session with signalling of its own, whatever the host
program does when it reads: if the session is not complete at the end, it has read 30002 times
and reports a failure. -/
theorem stopSession_waits (henabled : w.lib.srppEnabled ≠ 0) (hband : w.lib.signalingBySrpp = true)
    (h : (stopSession env F).run w = .ok (status, w')) (hc : w'.lib.flags.sessionComplete = false) :
    status = -1 ∧
      (receives F 30002).run (byeSent { w with lib := pauseTimer w.lib }) = .ok ((), w') := by
  rw [stopSession, run_bind_ok (setLib_run _ _), run_get_bind,
    if_neg (show (pauseTimer w.lib).srppEnabled ≠ 0 from henabled), run_get_bind,
    if_pos (show (pauseTimer w.lib).signalingBySrpp = true from hband)] at h
  rcases run_bind_eq_ok h with ⟨_, u, hbye, hend⟩
  rcases run_bind_eq_ok hbye with ⟨_, v, hwait, hu⟩
  cases hu
  rw [run_get_bind] at hend
  cases hend
  rw [sendByeMessage_run] at hwait
  rcases run_bind_eq_ok hwait with ⟨_, t, hr, hwait⟩
  rw [hc]
  exact ⟨rfl, (run_bind_ok hr).trans (waitFor_exhausted hwait hc).2⟩

end Waiting

/-- An endpoint in the middle of a session. -/
def enabledEndpoint : Endpoint :=
  { freshEndpoint 1464 with lib := { (freshEndpoint 1464).lib with srppEnabled := 1 } }

/-- On a channel that delivers nothing, the call fails after 30002 reads. -/
theorem stopSession_waits_quiet : ∃ w, (receives channel 30002).run
    (byeSent { enabledEndpoint with lib := pauseTimer enabledEndpoint.lib }) = .ok ((), w) := by
  let u : Endpoint := { enabledEndpoint with lib := pauseTimer enabledEndpoint.lib }
  obtain ⟨r, hquiet⟩ := waitFor_channel Flags.sessionComplete 30000 (byeSent u)
  have hbye : (sendByeMessage (Env.constant 0) channel).run u = .ok (r, byeSent u) := by
    have hread : channel.receive.run (byeSent u) = .ok ((), byeSent u) := rfl
    rw [sendByeMessage_run, run_bind_ok hread]
    exact hquiet
  have hrun : (stopSession (Env.constant 0) channel).run enabledEndpoint = .ok (-1, byeSent u) := by
    have henabled : u.lib.srppEnabled ≠ 0 := by decide
    have hband : u.lib.signalingBySrpp = true := rfl
    rw [stopSession, run_bind_ok (setLib_run _ _), run_get_bind, if_neg henabled, run_get_bind,
      if_pos hband, run_bind_ok (run_bind_ok hbye)]
    rfl
  exact ⟨byeSent u, (stopSession_waits (Env.constant 0) (by decide) rfl hrun rfl).2⟩

/-! ## An endpoint and its peer -/

/-- A HELLO or a HELLOACK. -/
def IsHandshake (d : List Byte) : Prop := (∃ key psize, IsHello key psize d) ∨ ∃ psize, IsHelloAck psize d

theorem IsHandshake.signalKind {d : List Byte} (h : IsHandshake d) (junk : Mem) :
    signalKind (junk.around d) = some 12 ∨ signalKind (junk.around d) = some 13 := by
  rcases h with ⟨key, psize, hello⟩ | ⟨psize, ack⟩
  · exact .inl (IsSignal.signalKind hello (by decide) junk)
  · exact .inr (IsSignal.signalKind ack (by decide) junk)

/-- All that has been sent is part of the handshake. -/
def OnlyHandshakes (h : List Exchange) : Prop := ∀ d, .sent d ∈ h → IsHandshake d

theorem OnlyHandshakes.extend {h : List Exchange} (ho : OnlyHandshakes h) (later : List Exchange)
    (hlater : ∀ d, .sent d ∈ later → IsHandshake d) : OnlyHandshakes (later ++ h) := by
  intro d hd
  rcases List.mem_append.mp hd with hnew | hold
  · exact hlater d hnew
  · exact ho d hold

theorem Move.onlyHandshakes {f f' : Flags} {h h' : List Exchange} (hm : Move f h f' h')
    (ho : OnlyHandshakes h) : OnlyHandshakes h' := by
  cases hm with
  | hello key psize ds _ _ _ hellos =>
    apply ho.extend
    intro d hd
    rcases List.mem_map.mp hd with ⟨d', hd', he⟩
    cases he
    exact .inl ⟨key, psize, hellos d hd'⟩
  | helloAck psize d' _ ack =>
    apply ho.extend [_]
    intro d hd
    cases List.mem_singleton.mp hd
    exact .inr ⟨psize, ack⟩
  | control => exact ho.extend [_] (by simp)
  | arrival mem n => exact ho.extend [_] (by simp)
  | stopping k => exact ho.extend [_] (by simp)
  | stopped k status _ => exact ho.extend [_] (by simp)
  | _ => exact ho

/-- A session that has ended has been acknowledged, and so has a `stop_session` that does not
fail. -/
structure EndsAcknowledged (f : Flags) (h : List Exchange) : Prop where
  acknowledged : Acknowledged f h
  status : ∀ k s, .stopped k s ∈ h → s = (if k = 0 then -10 else -1) ∨ HasReceived 23 h

theorem EndsAcknowledged.extend {f f' : Flags} {h : List Exchange} (ha : EndsAcknowledged f h)
    (later : List Exchange) (hnext : Acknowledged f' (later ++ h))
    (hlater : ∀ k s, .stopped k s ∈ later → s = (if k = 0 then -10 else -1) ∨ HasReceived 23 h) :
    EndsAcknowledged f' (later ++ h) where
  acknowledged := hnext
  status k s hs := by
    rcases List.mem_append.mp hs with hnew | hold
    · exact (hlater k s hnew).imp_right fun hr => hr.append later
    · exact (ha.status k s hold).imp_right fun hr => hr.append later

theorem Move.endsAcknowledged {f f' : Flags} {h h' : List Exchange} (hm : Move f h f' h')
    (ha : EndsAcknowledged f h) : EndsAcknowledged f' h' := by
  have hnext := hm.acknowledged ha.acknowledged
  cases hm with
  | control => exact ha.extend [_] hnext (by simp)
  | arrival mem n => exact ha.extend [_] hnext (by simp)
  | stopping k => exact ha.extend [_] hnext (by simp)
  | stopped k status returned =>
    apply ha.extend [_] hnext
    intro k' s hs
    cases List.mem_singleton.mp hs
    cases hf : f.sessionComplete with
    | false =>
      rw [hf] at returned
      exact .inl returned
    | true => exact .inr (ha.acknowledged.session hf)
  | hello key psize ds _ _ _ _ => exact ha.extend _ hnext (by simp)
  | helloAck psize d _ _ => exact ha.extend [_] hnext (by simp)
  | _ => exact ⟨hnext, ha.status⟩

/-- Every signalling message that has been received here has been sent there, with any loss,
repetition and reordering. -/
def ReceivesFrom (here there : List Exchange) : Prop :=
  ∀ r ∈ arrivals here, signalKind r.1 ≠ none →
    ∃ d ∈ departures there, r.2 = d.length ∧ r.1.read 0 d.length = d

instance (here there : List Exchange) : Decidable (ReceivesFrom here there) :=
  inferInstanceAs (Decidable (∀ r ∈ arrivals here, _))

/-- Whoever sends only handshakes is heard to send nothing else. -/
theorem ReceivesFrom.kind {here there : List Exchange} {kind : BitVec 32}
    (h : ReceivesFrom here there) (ho : OnlyHandshakes there) (hr : HasReceived kind here) :
    kind = 12 ∨ kind = 13 := by
  rcases hr with ⟨mem, n, hm, hk⟩
  rcases h (mem, n) (mem_arrivals.mpr hm) (by rw [hk]; exact Option.some_ne_none _) with
    ⟨d, hd, -, hread⟩
  have hmem : Mem.around mem d = mem := by
    rw [← hread, Mem.around, Mem.write_read_self]
  have hkind := (ho d (mem_departures.mp hd)).signalKind mem
  rw [hmem, hk] at hkind
  exact hkind.imp Option.some.inj Option.some.inj

/-- Whatever is called on two endpoints of this library, also within their reads, and whatever
of the one's messages reaches the other: only HELLOs and HELLOACKs are ever sent, the session is
never complete, and every `stop_session` fails. -/
theorem teardown_never_completes (env env' : Env) (answer answer' : List Byte → ℤ) (n n' : ℕ)
    (l l' : Lib) (script script' : List (List Call)) (calls calls' : List Call) (w w' : World Caller)
    (hrun : (performAll env (callerFunctors env answer n) calls).run (untouched l script) =
      .ok ((), w))
    (hpeer : (performAll env' (callerFunctors env' answer' n') calls').run (untouched l' script') =
      .ok ((), w'))
    (hreceived : ReceivesFrom w.ext.history w'.ext.history) :
    (∀ d, .sent d ∈ w.ext.history → datagramKind d = some 12 ∨ datagramKind d = some 13) ∧
    w.lib.flags.sessionComplete = false ∧
    AtControl (fun f _ => f.sessionComplete = false) w.ext.history ∧
    ∀ k status, .stopped k status ∈ w.ext.history → status = if k = 0 then -10 else -1 := by
  have hempty : OnlyHandshakes [] := by simp [OnlyHandshakes]
  have hsent := (run_holds env (fun _ _ _ _ => Move.onlyHandshakes) hempty hrun).1
  have hheard := (run_holds env' (fun _ _ _ _ => Move.onlyHandshakes) hempty hpeer).1
  have hstart : EndsAcknowledged {} [] := ⟨⟨by simp, by simp⟩, by simp⟩
  rcases run_holds env (fun _ _ _ _ => Move.endsAcknowledged) hstart hrun with ⟨hend, hcontrol⟩
  have hnone : ¬HasReceived 23 w.ext.history := by
    intro hr
    rcases hreceived.kind hheard hr with hk | hk <;> exact absurd hk (by decide)
  refine ⟨fun d hd => (hsent d hd).signalKind _, ?_, ?_, fun k status hs => ?_⟩
  · exact Bool.eq_false_of_not_eq_true fun hf => hnone (hend.acknowledged.session hf)
  · intro later f earlier heq
    apply Bool.eq_false_of_not_eq_true
    intro hf
    apply hnone
    rw [heq, List.append_cons]
    exact ((hcontrol later f earlier heq).acknowledged.session hf).append _
  · exact (hend.status k status hs).resolve_right hnone

/-! ## A session that is stopped -/

theorem performAll_cons (env : Env) (F : Functors Caller) (c : Call) (cs : List Call) :
    performAll env F (c :: cs) = performAll env F [c] >>= fun _ => performAll env F cs := by
  simp only [performAll, bind_assoc, pure_bind]

/-- A wait in which nothing arrives. -/
theorem waitFor_control (env : Env) (answer : List Byte → ℤ) {done : Flags → Bool} (n : ℕ)
    {w : World Caller} (hd : done w.lib.flags = false) :
    ∃ w', (waitFor (callerFunctors env answer 0) done n).run w = .ok (-1, w') ∧ w'.lib = w.lib ∧
      arrivals w'.ext.history = arrivals w.ext.history := by
  induction n generalizing w with
  | zero =>
    let u : World Caller :=
      { w with ext := { w.ext with history := .control w.lib.flags :: w.ext.history } }
    refine ⟨u, ?_, rfl, rfl⟩
    rw [waitFor, run_get_bind, if_neg (by rw [hd]; decide)]
    rfl
  | succ n ih =>
    let u : World Caller :=
      { w with ext := { w.ext with history := .control w.lib.flags :: w.ext.history } }
    obtain ⟨w', hrun, hl, ha⟩ := @ih u hd
    refine ⟨w', ?_, hl, ha⟩
    rw [waitFor, run_get_bind, if_neg (by rw [hd]; decide), ← hrun]
    rfl

/-- A session that is stopped while nothing arrives. -/
theorem stop_quiet (env : Env) (answer : List Byte → ℤ) {w : World Caller}
    (henabled : w.lib.srppEnabled ≠ 0) (hband : w.lib.signalingBySrpp = true)
    (hc : w.lib.flags.sessionComplete = false) : ∃ w',
    (performAll env (callerFunctors env answer 0) [.stopSession]).run w = .ok ((), w') ∧
      arrivals w'.ext.history = arrivals w.ext.history ∧
      .stopped w.lib.srppEnabled (-1) ∈ w'.ext.history := by
  let v : World Caller :=
    { w with ext := { w.ext with history := .stopping w.lib.srppEnabled :: w.ext.history } }
  let u : World Caller := { v with lib := pauseTimer v.lib }
  let t : World Caller :=
    { byeSent u with ext := { u.ext with history := .control (byeSent u).lib.flags :: u.ext.history } }
  obtain ⟨w', hwait, hl, ha⟩ := @waitFor_control env answer Flags.sessionComplete 30000 t hc
  have hbye : (sendByeMessage env (callerFunctors env answer 0)).run u = .ok (-1, w') := by
    rw [sendByeMessage_run, ← hwait]
    rfl
  have hstop : (stopSession env (callerFunctors env answer 0)).run v = .ok (-1, w') := by
    have hdone : w'.lib.flags.sessionComplete = false := by
      rw [hl]
      exact hc
    rw [stopSession, run_bind_ok (setLib_run _ _), run_get_bind,
      if_neg (show u.lib.srppEnabled ≠ 0 from henabled), run_get_bind,
      if_pos (show u.lib.signalingBySrpp = true from hband), run_bind_ok (run_bind_ok hbye)]
    change Except.ok (if w'.lib.flags.sessionComplete then (1 : ℤ) else -1, w') = _
    rw [hdone]
    rfl
  let history := .stopped w.lib.srppEnabled (-1) :: w'.ext.history
  have hperform : (Call.perform env (callerFunctors env answer 0) .stopSession).run w =
      .ok ((), { w' with ext := { w'.ext with history := history } }) := by
    change (stopSession env (callerFunctors env answer 0) >>=
      fun status => note (.stopped w.lib.srppEnabled status)).run v = _
    rw [run_bind_ok hstop]
    rfl
  refine ⟨{ w' with ext := { w'.ext with history := .control w'.lib.flags :: history } },
    run_bind_ok hperform, ha, ?_⟩
  exact List.mem_cons_of_mem _ (List.mem_cons_self ..)

/-- The state in which two callers start: SRPP is enabled. -/
def enabledCaller (script : List (List Call)) : World Caller :=
  untouched { Lib.start (Env.constant 0) with srppEnabled := 1 } script

/-- An endpoint that calls `signaling` and is answered. -/
def starts : World.Op Caller Unit :=
  performAll (Env.constant 0) (callerFunctors (Env.constant 0) (fun _ => 0) 1) [.signaling]

/-- Its HELLO. -/
def startedHello : List Byte :=
  match starts.run (enabledCaller [[.received (bareSignal 13) 92]]) with
  | .ok (_, w) => (departures w.ext.history).getLastD []
  | .error _ => []

/-- The peer answers the HELLO and then stops. -/
theorem teardown_fails_after_hello : ∃ w w',
    (performAll (Env.constant 0) (callerFunctors (Env.constant 0) (fun _ => 0) 0)
      [.received (Mem.around (fun _ => 0) startedHello) startedHello.length, .stopSession]).run
      (enabledCaller []) = .ok ((), w) ∧
    starts.run (enabledCaller [[.received (bareSignal 13) 92]]) = .ok ((), w') ∧
    ReceivesFrom w.ext.history w'.ext.history ∧ HasReceived 12 w.ext.history ∧
    .stopped 1 (-1) ∈ w.ext.history ∧ w.lib.flags.sessionComplete = false := by
  have hcheck : endsIn (performAll (Env.constant 0) (callerFunctors (Env.constant 0) (fun _ => 0) 0)
        [.received (Mem.around (fun _ => 0) startedHello) startedHello.length]) (enabledCaller [])
      (fun w => endsIn starts (enabledCaller [[.received (bareSignal 13) 92]]) fun w' =>
        decide (w.lib.srppEnabled = 1) && w.lib.signalingBySrpp && !w.lib.flags.sessionComplete &&
          decide (ReceivesFrom w.ext.history w'.ext.history) &&
          decide (HasReceived 12 w.ext.history)) = true := by decide +kernel
  rcases endsIn_run hcheck with ⟨_, u, hfirst, hu⟩
  rcases endsIn_run hu with ⟨_, w', hpeer, hw⟩
  simp only [Bool.and_eq_true, Bool.not_eq_true', decide_eq_true_eq] at hw
  rcases hw with ⟨⟨⟨⟨henabled, hband⟩, hopen⟩, hfrom⟩, mem, n, hm, hk⟩
  obtain ⟨w, hstop, harrived, hstopped⟩ := stop_quiet (Env.constant 0) (fun _ => 0)
    (by rw [henabled]; decide) hband hopen
  have hrun : (performAll (Env.constant 0) (callerFunctors (Env.constant 0) (fun _ => 0) 0)
      [.received (Mem.around (fun _ => 0) startedHello) startedHello.length, .stopSession]).run
      (enabledCaller []) = .ok ((), w) := by
    rw [performAll_cons, run_bind_ok hfirst]
    exact hstop
  have hreceived : ReceivesFrom w.ext.history w'.ext.history := by
    intro r hr
    rw [harrived] at hr
    exact hfrom r hr
  rw [← mem_arrivals, ← harrived, mem_arrivals] at hm
  rw [henabled] at hstopped
  exact ⟨w, w', hrun, hpeer, hreceived, ⟨mem, n, hm, hk⟩, hstopped,
    (teardown_never_completes _ _ _ _ _ _ _ _ _ _ _ _ w w' hrun hpeer hreceived).2.1⟩

end Sqrkal.Handshake
