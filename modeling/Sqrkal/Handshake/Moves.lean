import Sqrkal.Handshake.Calls
import Sqrkal.Handshake.Endpoint

/-! # The moves of the signalling machine

Everything the library can do to its flags and to the history of its caller, with
the conditions under which it does it. The nested receives of the handlers are
moves like those of the handlers themselves, so what every move keeps holds at
every moment of every run.
-/

namespace Sqrkal.Handshake
open Foundation Mem Message Library Relation

/-- Whether `sendHelloMessage` refuses. -/
def isBusy (f : Flags) : Bool := f.hellosent || f.hellorecvd || f.helloacksent || f.helloackrecvd

/-- One change of flags and history. -/
inductive Move (f : Flags) (h : List Exchange) : Flags → List Exchange → Prop where
  | control : Move f h f (.control f :: h)
  | arrival (mem : Mem) (n : ℤ) : Move f h f (.received mem n :: h)
  | stopping (k : ℤ) : Move f h f (.stopping k :: h)
  | stopped (k status : ℤ)
      (returned : status = if k = 0 then -10 else if f.sessionComplete then 1 else -1) :
      Move f h f (.stopped k status :: h)
  /-- Five HELLOs with one text. -/
  | hello (key : ℕ) (psize : ℤ) (ds : List (List Byte)) (idle : isBusy f = false)
      (range : key < 65536) (count : ds.length = 5)
      (hellos : ∀ d ∈ ds, IsSignal 12 (helloOptions key psize) d) :
      Move f h { f with hellosent := true } (ds.map .sent ++ h)
  | helloAck (psize : ℤ) (d : List Byte) (acking : acks f = true)
      (ack : IsSignal 13 (helloAckOptions psize) d) :
      Move f h { f with helloacksent := true } (.sent d :: h)
  | helloReceived (received : HasReceived 12 h) : Move f h { f with hellorecvd := true } h
  | helloAckReceived : Move f h { f with helloackrecvd := true } h
  | complete (received : HasReceived 13 h) : Move f h { f with signalingComplete := true } h
  /-- The end of `receivedHelloAckMessage`. -/
  | settle (answered : f.hellosent = true → f.helloacksent = true) :
      Move f h { f with hellosent := false, helloackrecvd := false } h
  | byeReceived (received : HasReceived 22 h) : Move f h { f with byerecvd := true } h
  | byeAck (ending : f.byerecvd = true ∨ f.byesent = true) :
      Move f h { f with byeacksent := true } h
  | byeAckReceived (received : HasReceived 23 h) :
      Move f h { f with byeackrecvd := true, sessionComplete := true } h
  /-- `sendByeMessage`: its message has no payload and is not sent. -/
  | bye (k : ℤ) (enabled : k ≠ 0) (stopped : .stopping k ∈ h) : Move f h { f with byesent := true } h

/-- A step of the whole state: a move, or nothing the moves are about. -/
inductive Moves (w w' : World Caller) : Prop where
  | quiet (flags : w'.lib.flags = w.lib.flags) (history : w'.ext.history = w.ext.history) : Moves w w'
  | move (h : Move w.lib.flags w.ext.history w'.lib.flags w'.ext.history) : Moves w w'

variable (env : Env)

/-- Functors that record what is sent and otherwise keep to the moves. -/
structure Records (F : Functors Caller) : Prop where
  send : ∀ d w, ∃ r, (F.send d).run w =
    .ok (r, { w with ext := { w.ext with history := .sent d :: w.ext.history } })
  receive : Within Moves F.receive

/-! ## Parts of the handlers that always do the same -/

section Parts
variable {α : Type}

/-- The state changes only where the moves do not look. -/
theorem quiet_steps {w w' : World Caller} (hf : w'.lib.flags = w.lib.flags)
    (hh : w'.ext.history = w.ext.history) : ReflTransGen Moves w w' :=
  .single (.quiet hf hh)

theorem setLib_moves {f : Lib → Lib} (hf : ∀ l, (f l).flags = l.flags) :
    Within Moves (setLib f : World.Op Caller Unit) :=
  .modify fun w => .quiet (hf w.lib) rfl

theorem onLib_moves {x : Lib.Op α} (hx : ∀ l a l', x.run l = .ok (a, l') → l'.flags = l.flags) :
    Within Moves (onLib x : World.Op Caller α) := by
  intro w a w' h
  rcases onLib_eq_ok h with ⟨l, hl, rfl⟩
  exact quiet_steps (hx _ _ _ hl) rfl

theorem setLib_bind_moves {w : World Caller} {f : Lib → Lib} {k : Unit → World.Op Caller α}
    (hf : (f w.lib).flags = w.lib.flags) (hk : WithinAt Moves { w with lib := f w.lib } (k ())) :
    WithinAt Moves w (setLib f >>= k) :=
  .of_run_eq (run_bind_ok (setLib_run w f)) (quiet_steps hf rfl) hk

theorem setFlags_bind_moves {w : World Caller} {f : Flags → Flags} {k : Unit → World.Op Caller α}
    (hf : Move w.lib.flags w.ext.history (f w.lib.flags) w.ext.history)
    (hk : WithinAt Moves { w with lib := { w.lib with flags := f w.lib.flags } } (k ())) :
    WithinAt Moves w (setFlags f >>= k) :=
  .of_run_eq (run_bind_ok (setFlags_run w f)) (.single (.move hf)) hk

theorem rand_flags (min max : ℤ) (l : Lib) (a : ℤ) (l' : Lib)
    (h : (rand env min max).run l = .ok (a, l')) : l'.flags = l.flags := by
  cases h
  rfl

theorem unusedMessage_flags (l : Lib) (a : Unit) (l' : Lib)
    (h : (unusedMessage env).run l = .ok (a, l')) : l'.flags = l.flags := by
  cases h
  rfl

theorem indeterminate_flags (l : Lib) (a : ℤ) (l' : Lib)
    (h : (indeterminate env).run l = .ok (a, l')) : l'.flags = l.flags := by
  cases h
  rfl

end Parts

section Sending
variable {F : Functors Caller} (hF : Records F)
include hF

/-- A signalling message with a text is constructed and sent. -/
theorem sendSignal_run (kind : BitVec 32) {options : List Byte} (hk : kind ≠ 0)
    (ho : options ≠ []) (w : World Caller) : ∃ d r w', IsSignal kind options d ∧
      (do
        let msg ← onLib (signalingMessage env kind options)
        sendMessage env F msg : World.Op Caller ℤ).run w = .ok (r, w') ∧
      w'.lib.flags = w.lib.flags ∧ w'.ext.history = .sent d :: w.ext.history := by
  rcases signalingMessage_run env w.lib kind options with ⟨msg, hm, hc⟩
  rcases sendMessage_signal env { w with lib := w.lib.constructed } hc hk ho with ⟨d, hd, hr⟩
  rw [run_bind_ok (onLib_run hm), hr F]
  rcases hF.send d ⟨{ w.lib.constructed.ticked with packetToSend := 1 }, w.ext, w.log⟩ with
    ⟨status, hs⟩
  refine ⟨d, status, _, hd, (run_bind_ok hs).trans rfl, rfl, rfl⟩

/-- As long as no HELLOACK is in, every round of the loop sends. -/
theorem sendHellos_run {options : List Byte} (ho : options ≠ []) (n : ℕ) (w : World Caller)
    (hack : w.lib.flags.helloackrecvd = false) :
    ∃ (ds : List (List Byte)) (w' : World Caller),
      (sendHellos env F options n).run w = .ok (true, w') ∧ ds.length = n ∧
      (∀ d ∈ ds, IsSignal 12 options d) ∧
      w'.lib.flags = (if n = 0 then w.lib.flags else { w.lib.flags with hellosent := true }) ∧
      w'.ext.history = ds.map .sent ++ w.ext.history := by
  induction n generalizing w with
  | zero => exact ⟨[], w, rfl, rfl, by simp, rfl, rfl⟩
  | succ n ih =>
    let u : World Caller :=
      { w with lib := { w.lib with flags := { w.lib.flags with hellosent := true } } }
    rcases sendSignal_run env hF 12 (by decide) ho u with
      ⟨d, r, u', hd, hsend, hflags, hhistory⟩
    rcases ih u' (by rw [hflags]; exact hack) with ⟨ds, w', hrun, hlen, hds, hf, hh⟩
    have hloop : (sendHellos env F options (n + 1)).run w = .ok (true, w') := by
      rw [sendHellos, run_get_bind, if_neg (by rw [hack]; decide), run_bind_ok (setFlags_run _ _), ← hrun]
      rcases run_bind_eq_ok hsend with ⟨msg, t, hmsg, hsent⟩
      rw [run_bind_ok hmsg, run_bind_ok hsent]
    refine ⟨ds ++ [d], w', hloop, by simp [hlen], ?_, ?_, ?_⟩
    · intro d' hd'
      rcases List.mem_append.mp hd' with hold | hnew
      · exact hds d' hold
      · rw [List.mem_singleton.mp hnew]
        exact hd
    · rw [hf, hflags, if_neg (Nat.succ_ne_zero n)]
      split_ifs <;> rfl
    · rw [hh, hhistory, List.map_append, List.append_assoc]
      rfl

end Sending

/-! ## The handlers -/

/-- The part of `sendHelloMessage` after the five HELLOs. -/
def awaitComplete (F : Functors Caller) : World.Op Caller ℤ := do
  if (← get).lib.srppEnabled = 0 then return -10
  else
    onLib (unusedMessage env)
    F.receive
    waitFor F Flags.signalingComplete 120000

section Handlers
variable {F : Functors Caller} (hF : Records F)
include hF

theorem awaitComplete_moves : Within Moves (awaitComplete env F) :=
  .bind .get fun _ => .ite (.pure _) (.bind (onLib_moves (unusedMessage_flags env)) fun _ =>
    .bind hF.receive fun _ => waitFor_within hF.receive _ _)

theorem sendHelloMessage_moves : Within Moves (sendHelloMessage env F) := by
  intro w
  cases hb : isBusy w.lib.flags with
  | true =>
    have hguard : (w.lib.flags.hellosent || w.lib.flags.hellorecvd || w.lib.flags.helloacksent ||
        w.lib.flags.helloackrecvd) = true := hb
    apply WithinAt.of_run_eq _ .refl (Within.pure (-1) w)
    rw [sendHelloMessage, run_get_bind, if_pos hguard]
  | false =>
    have hguard : (w.lib.flags.hellosent || w.lib.flags.hellorecvd || w.lib.flags.helloacksent ||
        w.lib.flags.helloackrecvd) = false := hb
    have hack : w.lib.flags.helloackrecvd = false := by
      simp only [isBusy, Bool.or_eq_false_iff] at hb
      exact hb.2
    let key := env.rand w.lib.tick % 65535
    let u : World Caller := { w with lib := (setKey key w.lib.ticked).constructed }
    rcases sendHellos_run env hF (helloOptions_ne_nil key w.lib.session.maxpacketsize) 5 u hack with
      ⟨ds, v, hrun, hlen, hds, hflags, hhistory⟩
    have hkey : (rand env 0 65535).run w.lib = .ok ((key : ℤ), w.lib.ticked) := by
      rw [rand_run, srppRand_key]
    have hstart : ReflTransGen Moves w u := quiet_steps rfl rfl
    have hmove : Move u.lib.flags u.ext.history v.lib.flags v.ext.history := by
      rw [hflags, hhistory, if_neg (by decide)]
      exact .hello key _ ds hb ((Nat.mod_lt _ (by decide)).trans (by decide)) hlen hds
    apply WithinAt.of_run_eq _ (hstart.tail (.move hmove)) (awaitComplete_moves env hF v)
    rw [sendHelloMessage, run_get_bind, if_neg (by rw [hguard]; decide), run_bind_ok (onLib_run hkey)]
    change (sendHellos env F (helloOptions key w.lib.session.maxpacketsize) 5 >>=
      fun sent => if sent then awaitComplete env F else pure 0).run u = _
    rw [run_bind_ok hrun, if_pos rfl]

theorem signaling_moves : Within Moves (Library.signaling env F) :=
  .bind (onLib_moves (rand_flags env _ _)) fun _ => sendHelloMessage_moves env hF

/-- An acknowledgement that is sent is a move, made before the handler reads on. -/
theorem acknowledge_moves {w : World Caller} (ha : acks w.lib.flags = true) :
    ∃ v, Move w.lib.flags w.ext.history v.lib.flags v.ext.history ∧
      v.lib.flags = { w.lib.flags with helloacksent := true } ∧
      (sendHelloAckMessage env F).run w =
        (do
          (if !w.lib.flags.signalingComplete then F.receive else pure ())
          return 0 : World.Op Caller ℤ).run v := by
  rcases sendHelloAckMessage_acking env ha with ⟨d, hd, hrun⟩
  rcases hF.send d { w with lib := { w.lib.constructed.ticked with packetToSend := 1 } } with
    ⟨status, hs⟩
  refine ⟨⟨{ w.lib.constructed.ticked with
      packetToSend := 0, flags := { w.lib.flags with helloacksent := true } },
    { w.ext with history := .sent d :: w.ext.history }, w.log⟩, .helloAck _ d ha hd, rfl, ?_⟩
  rw [hrun F, run_bind_ok hs]
  rfl

theorem sendHelloAckMessage_moves : Within Moves (sendHelloAckMessage env F) := by
  intro w
  cases ha : acks w.lib.flags with
  | false =>
    rcases sendHelloAckMessage_refused env F ha with ⟨r, l, hrun, hl⟩
    have hf : l.flags = w.lib.flags := by rcases hl with rfl | rfl <;> rfl
    exact .of_run_eq (y := pure r) hrun (quiet_steps hf rfl) (Within.pure r _)
  | true =>
    rcases acknowledge_moves env hF ha with ⟨v, hmove, -, hrun⟩
    apply WithinAt.of_run_eq hrun (.single (.move hmove))
    exact Within.bind (.ite hF.receive (.pure ())) (fun _ => .pure 0) v

theorem receivedHelloMessage_moves {w : World Caller} (hr : HasReceived 12 w.ext.history) :
    WithinAt Moves w (receivedHelloMessage env F) :=
  setFlags_bind_moves (.helloReceived hr) (sendHelloAckMessage_moves env hF _)

omit hF in
theorem settle_moves {w : World Caller} (h : w.lib.flags.hellosent = true → w.lib.flags.helloacksent = true)
    (i : ℤ) : WithinAt Moves w (do
      setFlags fun f => { f with hellosent := false, helloackrecvd := false }
      return i : World.Op Caller ℤ) :=
  setFlags_bind_moves (.settle h) (Within.pure i _)

/-- `signaling_complete` is set before the answer, so the handler does not read on. -/
theorem receivedHelloAckMessage_moves {w : World Caller} (hr : HasReceived 13 w.ext.history) :
    WithinAt Moves w (receivedHelloAckMessage env F) := by
  let u : World Caller :=
    { w with lib := { w.lib with flags := ackFlags w.lib.flags }, log := .completed :: w.log }
  have hsteps : ReflTransGen Moves w u := by
    have hfirst : Moves w
        { w with lib := { w.lib with flags := { w.lib.flags with helloackrecvd := true } } } :=
      .move .helloAckReceived
    exact (ReflTransGen.single hfirst).tail (.move (.complete hr))
  have hrun : (receivedHelloAckMessage env F).run w = (do
      let i ← (if w.lib.flags.helloacksent then pure 0 else sendHelloAckMessage env F)
      setFlags fun f => { f with hellosent := false, helloackrecvd := false }
      return i : World.Op Caller ℤ).run u := rfl
  apply WithinAt.of_run_eq hrun hsteps
  by_cases hsent : w.lib.flags.helloacksent = true
  · rw [if_pos hsent]
    exact settle_moves (w := u) (fun _ => hsent) 0
  · rw [if_neg hsent]
    cases ha : acks u.lib.flags with
    | false =>
      have hquiet : u.lib.flags.hellosent = false := by
        revert ha hsent
        simp only [u, acks, ackFlags]
        grind
      rcases sendHelloAckMessage_refused env F ha with ⟨r, l, hack, hl⟩
      have hf : l.flags = u.lib.flags := by rcases hl with rfl | rfl <;> rfl
      apply WithinAt.of_run_eq (run_bind_ok hack) (quiet_steps hf rfl)
      apply settle_moves
      change l.flags.hellosent = true → _
      rw [hf, hquiet]
      intro h
      cases h
    | true =>
      rcases acknowledge_moves env hF ha with ⟨v, hmove, hf, hack⟩
      have hdone : (sendHelloAckMessage env F).run u = .ok (0, v) := hack
      apply WithinAt.of_run_eq (run_bind_ok hdone) (.single (.move hmove))
      apply settle_moves
      rw [hf]
      exact fun _ => rfl

omit hF in
theorem sendByeAckMessage_moves : Within Moves (sendByeAckMessage env F) := by
  intro w
  by_cases hg : ((!w.lib.flags.byerecvd && !w.lib.flags.byesent) || w.lib.flags.byeacksent) = true
  · apply WithinAt.of_run_eq _ .refl (Within.pure (-1) w)
    rw [sendByeAckMessage, run_get_bind, if_pos hg]
  · have hending : w.lib.flags.byerecvd = true ∨ w.lib.flags.byesent = true := by
      revert hg
      grind
    let v : World Caller :=
      { w with lib := { w.lib.constructed with flags := { w.lib.flags with byeacksent := true } } }
    have hmove : Move w.lib.flags w.ext.history v.lib.flags v.ext.history := .byeAck hending
    apply WithinAt.of_run_eq _ (.single (.move hmove)) (Within.pure 0 v)
    rw [sendByeAckMessage, run_get_bind, if_neg hg]
    rfl

omit hF in
theorem receivedByeMessage_moves {w : World Caller} (hr : HasReceived 22 w.ext.history) :
    WithinAt Moves w (receivedByeMessage env F) :=
  setFlags_bind_moves (.byeReceived hr) (sendByeAckMessage_moves env _)

omit hF in
theorem receivedByeAckMessage_moves {w : World Caller} (hr : HasReceived 23 w.ext.history) :
    WithinAt Moves w (receivedByeAckMessage env F) := by
  let u : World Caller :=
    { w with lib := { w.lib with
        flags := { w.lib.flags with byeackrecvd := true, sessionComplete := true } } }
  have hmove : Move w.lib.flags w.ext.history u.lib.flags u.ext.history := .byeAckReceived hr
  have hrun : (receivedByeAckMessage env F).run w =
      (if w.lib.flags.byeacksent then pure 0 else sendByeAckMessage env F).run u := rfl
  apply WithinAt.of_run_eq hrun (.single (.move hmove))
  exact Within.ite (.pure 0) (sendByeAckMessage_moves env) u

/-- `sendByeMessage` of a `stop_session` that is allowed to. -/
theorem sendByeMessage_moves {w : World Caller} {k : ℤ} (hk : k ≠ 0)
    (hs : .stopping k ∈ w.ext.history) : WithinAt Moves w (sendByeMessage env F) := by
  let u : World Caller :=
    { w with lib := { w.lib.constructed with flags := { w.lib.flags with byesent := true } } }
  have hmove : Move w.lib.flags w.ext.history u.lib.flags u.ext.history := .bye k hk hs
  have hrun : (sendByeMessage env F).run w = (do
      onLib (unusedMessage env)
      F.receive
      waitFor F Flags.sessionComplete 30000 : World.Op Caller ℤ).run u := rfl
  apply WithinAt.of_run_eq hrun (.single (.move hmove))
  exact Within.bind (onLib_moves (unusedMessage_flags env)) (fun _ => .bind hF.receive fun _ =>
    waitFor_within hF.receive _ _) u

theorem stopSession_moves {w : World Caller} (hs : .stopping w.lib.srppEnabled ∈ w.ext.history) :
    WithinAt Moves w (Library.stopSession env F) := by
  by_cases hk : w.lib.srppEnabled = 0
  · apply WithinAt.of_run_eq (y := pure (-10)) (stopSession_disabled env F hk) _ (Within.pure _ _)
    exact quiet_steps rfl rfl
  · apply setLib_bind_moves rfl
    apply WithinAt.get_bind
    rw [if_neg (show (pauseTimer w.lib).srppEnabled ≠ 0 from hk)]
    apply WithinAt.get_bind
    apply WithinAt.bind
    · split_ifs
      · apply WithinAt.bind_pure
        exact sendByeMessage_moves env hF hk hs
      · exact Within.pure _ _
    · intro _ w' _
      exact Within.bind .get (fun _ => .pure _) w'

omit hF in
/-- What `stop_session` returns is decided at its end. -/
theorem stopSession_status {w w' : World Caller} {status : ℤ}
    (h : (Library.stopSession env F).run w = .ok (status, w')) :
    status = if w.lib.srppEnabled = 0 then -10
      else if w'.lib.flags.sessionComplete then 1 else -1 := by
  by_cases hk : w.lib.srppEnabled = 0
  · rw [stopSession_disabled env F hk] at h
    cases h
    exact (if_pos hk).symm
  · rw [Library.stopSession, run_bind_ok (setLib_run _ _), run_get_bind,
      if_neg (show (pauseTimer w.lib).srppEnabled ≠ 0 from hk), run_get_bind] at h
    rcases run_bind_eq_ok h with ⟨_, u, -, hend⟩
    cases hend
    exact (if_neg hk).symm

omit hF in
/-- The library stops a session only after it has disabled itself, without a BYE. -/
theorem verifySignalling_moves (mem : Mem) : Within Moves (verifySignalling env F mem) := by
  refine .bind .get fun w => .ite (.ite ?_ (onLib_moves (indeterminate_flags env))) (.pure _)
  refine .bind (setLib_moves fun _ => rfl) fun _ => .bind .get fun w' => .ite ?_ (.pure _)
  intro u
  apply setLib_bind_moves rfl
  apply WithinAt.of_run_eq (y := pure (-10)) (stopSession_disabled env F rfl) _ (Within.pure _ _)
  exact quiet_steps rfl rfl

theorem dispatch_moves {w : World Caller} {msg : SRPPMessage}
    (hr : HasReceived msg.srppHeader.srppSignalling w.ext.history) :
    WithinAt Moves w (dispatch env F msg) := by
  unfold dispatch
  dsimp only
  split_ifs with h12 h13 h22 h23
  · rw [h12] at hr
    apply setLib_bind_moves rfl
    apply setLib_bind_moves (lowerMaxpacketsize_flags _ _)
    apply WithinAt.bind_pure
    exact receivedHelloMessage_moves env hF hr
  · rw [h13] at hr
    apply setLib_bind_moves (lowerMaxpacketsize_flags _ _)
    apply WithinAt.bind_pure
    exact receivedHelloAckMessage_moves env hF hr
  · rw [h22] at hr
    apply WithinAt.bind_pure
    exact receivedByeMessage_moves env hr
  · rw [h23] at hr
    apply WithinAt.bind_pure
    exact receivedByeAckMessage_moves env hr
  · exact Within.pure _ _

/-- A datagram is dispatched only under its own type. -/
theorem processReceivedData_moves {w : World Caller} {mem : Mem} {n : ℤ}
    (hr : .received mem n ∈ w.ext.history) : WithinAt Moves w (processReceivedData env F mem n) := by
  apply WithinAt.of_run_eq (run_bind_ok (onLib_run (createMessage_run w.lib env [])))
    (quiet_steps rfl rfl)
  apply WithinAt.get_bind
  dsimp only
  split_ifs with hout hsig
  · exact Within.bind (.lift _) (fun _ => .pure _) _
  · apply (Within.lift _ _).bind
    intro r w' hrun
    rcases run_lift_eq_ok hrun with ⟨hd, rfl⟩
    have hkind : signalKind mem = some r.2.srppHeader.srppSignalling := by
      rw [signalKind, if_pos hsig, networkToSrpp_srppHeader hd]
    have hreceived : HasReceived r.2.srppHeader.srppSignalling w.ext.history :=
      ⟨mem, n, hr, hkind⟩
    split_ifs
    · apply WithinAt.bind_pure
      exact dispatch_moves env hF hreceived
    · exact Within.pure _ _
  · apply (verifySignalling_moves env mem _).bind
    intro status u _
    apply WithinAt.get_bind
    split_ifs
    · apply (Within.lift _ _).bind
      intro r w' hrun
      rcases run_lift_eq_ok hrun with ⟨hd, rfl⟩
      -- the header is the same as in the buffer, so this is no signalling message
      rw [if_neg (mt (isSignalingMessage_iff hd).mp hsig)]
      exact Within.pure _ _
    · exact Within.pure _ _

/-! ## Calls -/

theorem perform_moves (c : Call) : Within Moves (c.perform env F) := by
  intro w
  cases c with
  | signaling => exact Within.bind (signaling_moves env hF) (fun _ => .pure _) w
  | stopSession =>
    apply WithinAt.get_bind
    apply WithinAt.modify_bind (.single (.move (.stopping _)))
    apply (stopSession_moves env hF (List.mem_cons_self ..)).bind
    intro status w' hrun
    have hstatus := stopSession_status env hrun
    exact WithinAt.modify (.move (.stopped _ _ hstatus))
  | received mem n =>
    apply WithinAt.modify_bind (.single (.move (.arrival mem n)))
    apply WithinAt.bind_pure
    exact processReceivedData_moves env hF (List.mem_cons_self ..)

omit hF in
theorem noteControl_moves : Within Moves noteControl := by
  apply Within.get_bind
  intro w
  exact WithinAt.modify (.move .control)

theorem performAll_moves (cs : List Call) : Within Moves (performAll env F cs) := by
  induction cs with
  | nil => exact .pure _
  | cons c cs ih => exact .bind (perform_moves env hF c) fun _ => .bind noteControl_moves fun _ => ih

end Handlers

/-- The functors of the caller keep to the moves at every depth. -/
theorem callerFunctors_records (answer : List Byte → ℤ) (n : ℕ) :
    Records (callerFunctors env answer n) := by
  induction n with
  | zero => exact ⟨fun d w => ⟨answer d, rfl⟩, noteControl_moves⟩
  | succ n ih =>
    refine ⟨fun d w => ⟨answer d, rfl⟩, ?_⟩
    have hnext : Within Moves nextCalls :=
      .bind .get fun w => .bind (.modify fun _ => .quiet rfl rfl) fun _ => .pure _
    exact .bind noteControl_moves fun _ => .bind hnext fun cs => performAll_moves env ih cs

/-! ## Runs -/

/-- A property holds of flags and earlier history at every moment the caller has had
control. -/
def AtControl (P : Flags → List Exchange → Prop) (history : List Exchange) : Prop :=
  ∀ later f earlier, history = later ++ .control f :: earlier → P f earlier

section Runs
variable {P : Flags → List Exchange → Prop}

/-- A later entry of the history that is not the caller's adds nothing. -/
theorem AtControl.cons {e : Exchange} {h : List Exchange} (hc : AtControl P h)
    (he : ∀ f, e = .control f → P f h) : AtControl P (e :: h) := by
  intro later f earlier heq
  cases later with
  | nil =>
    rw [List.nil_append, List.cons.injEq] at heq
    exact heq.2 ▸ he f heq.1
  | cons e' later =>
    rw [List.cons_append, List.cons.injEq] at heq
    exact hc later f earlier heq.2

theorem AtControl.sent {ds : List (List Byte)} {h : List Exchange} (hc : AtControl P h) :
    AtControl P (ds.map .sent ++ h) := by
  induction ds with
  | nil => exact hc
  | cons d ds ih => exact ih.cons fun f hf => by cases hf

/-- What holds now and held at every control is kept by every move that keeps it. -/
theorem Move.atControl {f f' : Flags} {h h' : List Exchange} (hm : Move f h f' h') (hp : P f h)
    (hc : AtControl P h) : AtControl P h' := by
  cases hm with
  | control =>
    apply hc.cons
    intro f' hf
    cases hf
    exact hp
  | arrival mem n => exact hc.cons fun f hf => by cases hf
  | stopping k => exact hc.cons fun f hf => by cases hf
  | stopped k status _ => exact hc.cons fun f hf => by cases hf
  | hello key psize ds _ _ _ _ => exact hc.sent
  | helloAck psize d _ _ => exact hc.cons fun f hf => by cases hf
  | _ => exact hc

/-- The invariant rule: what holds of an untouched endpoint and is kept by every move
holds after every sequence of calls, and held at every control on the way. -/
theorem run_holds (hP : ∀ f h f' h', Move f h f' h' → P f h → P f' h') (h0 : P {} [])
    {answer : List Byte → ℤ} {n : ℕ} {l : Lib} {script : List (List Call)} {calls : List Call}
    {w : World Caller}
    (hrun : (performAll env (callerFunctors env answer n) calls).run (untouched l script) =
      .ok ((), w)) :
    P w.lib.flags w.ext.history ∧ AtControl P w.ext.history := by
  have hmoves := performAll_moves env (callerFunctors_records env answer n) calls (untouched l script)
  have hstart : P {} [.control {}] := hP _ _ _ _ .control h0
  have hnothing : AtControl P [] := by
    intro later f earlier heq
    simp at heq
  have hcontrol : AtControl P [.control {}] := by
    apply hnothing.cons
    intro f hf
    cases hf
    exact h0
  apply hmoves.invariant (I := fun t => P t.lib.flags t.ext.history ∧ AtControl P t.ext.history)
    _ ⟨hstart, hcontrol⟩ hrun
  intro t t' hstep hI
  cases hstep with
  | quiet hf hh =>
    rw [hf, hh]
    exact hI
  | move hm => exact ⟨hP _ _ _ _ hm hI.1, hm.atControl hI.1 hI.2⟩

end Runs

end Sqrkal.Handshake
