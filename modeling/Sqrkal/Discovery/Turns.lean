import Sqrkal.Discovery.HeaderTemplate
import Sqrkal.Handshake.Signals

/-! # The library of the process as a party

A process is a party to the handshake with the flags and the key of its library, and with what
the datagrams of `send_rtp_message` say. Whatever the library does, down to any depth of packets
that it reads meanwhile, is a sequence of turns, as long as all the packets in the queue that
look like signalling are ones that it may hear.
-/

namespace Sqrkal.Discovery
open Foundation Mem Message Library Handshake Relation

/-- What a datagram of the library says at the other end. One that is too short says nothing. -/
def whatSays (d : Datagram) : Option Signal :=
  if 112 ≤ d.bytes.length then
    readSignal (received (fun _ => 0) d.bytes) (d.bytes.length - 28)
  else none

/-- What the messages of the library in a log say, the latest first. -/
def saidIn (log : List Event) : List (Option Signal) := (messagesIn log).reverse.map whatSays

def party (w : Process) : Party where
  flags := w.lib.flags
  key := w.lib.session.encryptionKey
  said := saidIn w.log

/-- A packet that says, if anything, what may be heard. -/
def Hears (heard : Signal → Prop) (p : Packet) : Prop :=
  ∀ s, readSignal (p.mem.shift 28) (p.bytes.length - 28) = some s → heard s

def Listening (heard : Signal → Prop) (w : Process) : Prop :=
  ∀ p, some p ∈ w.ext.queue → Hears heard p

/-- One step: the queue gets no longer, and the party takes turns. -/
def TakesTurns (heard : Signal → Prop) (w w' : Process) : Prop :=
  Listening heard w → Listening heard w' ∧ ReflTransGen (Turn heard) (party w) (party w')

/-- Functors through which the library says what it means to, and keeps to its turns. -/
structure Transmits (heard : Signal → Prop) (F : Functors Globals) : Prop where
  send : ∀ {d s}, IsSpoken d s → ∀ {w w' status}, (F.send d).run w = .ok (status, w') →
    w'.ext.queue = w.ext.queue ∧ party w' = { party w with said := some s :: (party w).said }
  receive : Within (TakesTurns heard) F.receive

@[simp] theorem saidIn_message (d : Datagram) (log : List Event) :
    saidIn (.rtpMessage d :: log) = whatSays d :: saidIn log := by
  simp [saidIn]

theorem saidIn_cons {e : Event} (h : isRtpMessage e = false) (log : List Event) :
    saidIn (e :: log) = saidIn log := by
  rw [saidIn, saidIn, messagesIn_cons h]

section Steps
variable {heard : Signal → Prop} {w w' : Process}

theorem Listening.congr (h : Listening heard w) (hq : w'.ext.queue = w.ext.queue) :
    Listening heard w' := by
  intro p hp
  rw [hq] at hp
  exact h p hp

theorem turns_quiet (hq : w'.ext.queue = w.ext.queue) (hp : party w' = party w) :
    TakesTurns heard w w' := by
  intro h
  refine ⟨h.congr hq, ?_⟩
  rw [hp]

theorem turns_turn (hq : w'.ext.queue = w.ext.queue) (ht : Turn heard (party w) (party w')) :
    TakesTurns heard w w' :=
  fun h => ⟨h.congr hq, .single ht⟩

variable {α : Type}

theorem setLib_turns {f : Lib → Lib} (hf : ∀ l, (f l).flags = l.flags)
    (hs : ∀ l, (f l).session.encryptionKey = l.session.encryptionKey) :
    Within (TakesTurns heard) (setLib f : Op Unit) := by
  refine .modify fun w => turns_quiet rfl ?_
  simp [party, hf, hs]

theorem onLib_turns {x : Lib.Op α}
    (hx : ∀ l a l', x.run l = .ok (a, l') →
      l'.flags = l.flags ∧ l'.session.encryptionKey = l.session.encryptionKey) :
    Within (TakesTurns heard) (onLib x : Op α) := by
  intro w a w' h
  rcases onLib_eq_ok h with ⟨l, hl, rfl⟩
  refine .single (turns_quiet rfl ?_)
  simp [party, hx _ _ _ hl]

theorem setFlags_turns {f : Flags → Flags}
    (hf : Turn heard (party w) { party w with flags := f w.lib.flags }) :
    WithinAt (TakesTurns heard) w (setFlags f : Op Unit) :=
  .modify (turns_turn rfl hf)

variable (env : Env)

theorem unusedMessage_turns : Within (TakesTurns heard) (onLib (unusedMessage env) : Op Unit) :=
  onLib_turns fun _ _ _ h => by
    cases h
    exact ⟨rfl, rfl⟩

theorem nextTick_turns : Within (TakesTurns heard) (onLib nextTick : Op ℕ) :=
  onLib_turns fun _ _ _ h => by
    cases h
    exact ⟨rfl, rfl⟩

theorem lowerMaxpacketsize_key (size : ℤ) (l : Lib) :
    (lowerMaxpacketsize size l).session.encryptionKey = l.session.encryptionKey := by
  unfold lowerMaxpacketsize
  split_ifs <;> rfl

end Steps

/-! ## What is said -/

/-- The part of `sendHelloMessage` after the five HELLOs. -/
def awaitAnswer (env : Env) (F : Functors Globals) : Op ℤ := do
  if (← get).lib.srppEnabled = 0 then return -10
  else
    onLib (unusedMessage env)
    F.receive
    waitFor F Flags.signalingComplete 120000

section Sending
variable {heard : Signal → Prop} {F : Functors Globals} (env : Env) (hF : Transmits heard F)
include hF

theorem sendSpoken {kind : BitVec 32} {options : List Byte} {s : Signal} (hk : kind ≠ 0)
    (ho : options ≠ []) (hs : ∀ d, IsUnmarked kind options d → IsSpoken d s) {w w' : Process}
    {status : ℤ} (h : (do
      let msg ← onLib (signalingMessage env kind options)
      sendMessage env F msg : Op ℤ).run w = .ok (status, w')) :
    w'.ext.queue = w.ext.queue ∧ party w' = { party w with said := some s :: (party w).said } := by
  rcases sendSignal_unmarked env F kind hk ho w with ⟨d, hd, hrun⟩
  rw [hrun] at h
  rcases run_bind_eq_ok h with ⟨_, v, hsend, h⟩
  cases h
  rcases hF.send (hs d hd) hsend with ⟨hq, hparty⟩
  exact ⟨hq, hparty⟩

/-- Every round of the loop says the same. -/
theorem sendHellos_said {key : ℕ} (hkey : key < 65535) (psize : ℤ) (n : ℕ) {w w' : Process}
    {sent : Bool} (hack : w.lib.flags.helloackrecvd = false)
    (h : (sendHellos env F (helloOptions key psize) n).run w = .ok (sent, w')) :
    sent = true ∧ w'.ext.queue = w.ext.queue ∧ party w' =
      { party w with
        flags := if n = 0 then w.lib.flags else { w.lib.flags with hellosent := true }
        said := List.replicate n (some (.hello (BitVec.ofInt 32 key))) ++ (party w).said } := by
  induction n generalizing w with
  | zero =>
    cases h
    exact ⟨rfl, rfl, rfl⟩
  | succ n ih =>
    rw [sendHellos, run_get_bind, if_neg (by rw [hack]; decide),
      run_bind_ok (setFlags_run _ _)] at h
    rcases run_bind_eq_ok h with ⟨msg, u, hmsg, h⟩
    rcases run_bind_eq_ok h with ⟨status, v, hsend, h⟩
    obtain ⟨hqueue, hparty⟩ := sendSpoken env hF (s := .hello (BitVec.ofInt 32 key)) (by decide)
      (helloOptions_ne_nil key psize) (fun d hd => .hello key psize hkey hd)
      ((run_bind_ok hmsg).trans hsend)
    have hflags : v.lib.flags = { w.lib.flags with hellosent := true } :=
      congrArg Party.flags hparty
    obtain ⟨hsent, hq, hp⟩ := ih (by rw [hflags]; exact hack) h
    refine ⟨hsent, hq.trans hqueue, ?_⟩
    rw [hp, hparty, hflags, List.replicate_succ', List.append_assoc, if_neg (Nat.succ_ne_zero n)]
    split_ifs <;> rfl

/-- The wait after a message, for whatever comes in. -/
theorem await_turns (done : Flags → Bool) (n : ℕ) : Within (TakesTurns heard) (do
    onLib (unusedMessage env)
    F.receive
    waitFor F done n : Op ℤ) :=
  .bind (unusedMessage_turns env) fun _ => .bind hF.receive fun _ => waitFor_within hF.receive _ _

theorem sendHelloMessage_turns : Within (TakesTurns heard) (sendHelloMessage env F) := by
  intro w
  cases hb : isBusy w.lib.flags with
  | true =>
    have hguard : (w.lib.flags.hellosent || w.lib.flags.hellorecvd || w.lib.flags.helloacksent ||
        w.lib.flags.helloackrecvd) = true := hb
    have hrun : (sendHelloMessage env F).run w = (pure (-1) : Op ℤ).run w := by
      rw [sendHelloMessage, run_get_bind, if_pos hguard]
    exact .of_run_eq hrun .refl (Within.pure _ w)
  | false =>
    have hguard : (w.lib.flags.hellosent || w.lib.flags.hellorecvd || w.lib.flags.helloacksent ||
        w.lib.flags.helloackrecvd) = false := hb
    let key := env.rand w.lib.tick % 65535
    let u : Process := { w with lib := (setKey key w.lib.ticked).constructed }
    have hkey : (rand env 0 65535).run w.lib = .ok ((key : ℤ), w.lib.ticked) := by
      rw [rand_run, srppRand_key]
    have hrange : key < 65535 := Nat.mod_lt _ (by decide)
    have hrun : (sendHelloMessage env F).run w =
        (sendHellos env F (helloOptions key w.lib.session.maxpacketsize) 5 >>= fun sent =>
          if sent then awaitAnswer env F else pure 0).run u := by
      rw [sendHelloMessage, run_get_bind, if_neg (by rw [hguard]; decide),
        run_bind_ok (onLib_run hkey)]
      rfl
    intro a w' h
    rw [hrun] at h
    rcases run_bind_eq_ok h with ⟨sent, v, hsent, h⟩
    obtain ⟨rfl, hqueue, hparty⟩ :=
      sendHellos_said env hF (w := u) hrange _ 5 (isBusy_false hb).2.2.2 hsent
    have hturn : Turn heard (party w) (party v) := by
      rw [hparty]
      exact .start key hb hrange
    have hsteps : TakesTurns heard w v := turns_turn hqueue hturn
    refine .head hsteps (Within.bind .get (fun x => .ite (.pure _) ?_) v a w' h)
    exact await_turns env hF _ _

theorem signaling_turns : Within (TakesTurns heard) (Library.signaling env F) := by
  refine .bind (onLib_turns fun _ _ _ h => ?_) fun _ => sendHelloMessage_turns env hF
  cases h
  exact ⟨rfl, rfl⟩

/-- An acknowledgement is a turn, taken before anything else is read. -/
theorem sendHelloAckMessage_said {w w' : Process} {r : ℤ} (ha : acks w.lib.flags = true)
    (h : (sendHelloAckMessage env F).run w = .ok (r, w')) : ∃ v : Process,
    v.ext.queue = w.ext.queue ∧
      party v = { party w with
        flags := { w.lib.flags with helloacksent := true }
        said := some .helloAck :: (party w).said } ∧
      (do
        (if !w.lib.flags.signalingComplete then F.receive else pure ())
        return 0 : Op ℤ).run v = .ok (r, w') := by
  have hg : ¬((!w.lib.flags.hellorecvd && !w.lib.flags.hellosent) ||
      w.lib.flags.helloacksent) = true := by
    revert ha
    simp only [acks]
    grind
  have hs : (!w.lib.flags.helloackrecvd || w.lib.flags.hellosent) = true := by
    revert ha
    simp only [acks]
    grind
  rw [sendHelloAckMessage, run_get_bind, if_neg hg, run_get_bind] at h
  rcases run_bind_eq_ok h with ⟨msg, u, hmsg, h⟩
  rw [if_pos hs] at h
  rcases run_bind_eq_ok h with ⟨status, v, hsend, h⟩
  obtain ⟨hqueue, hparty⟩ := sendSpoken env hF (s := .helloAck) (by decide)
    (helloAckOptions_ne_nil _) (fun d hd => .helloAck _ hd) ((run_bind_ok hmsg).trans hsend)
  have hflags : v.lib.flags = w.lib.flags := congrArg Party.flags hparty
  let g : Flags := { v.lib.flags with helloacksent := true }
  refine ⟨{ v with lib := { v.lib with flags := g } }, hqueue, ?_, ?_⟩
  · rw [← hflags]
    exact congrArg (fun p : Party => { p with flags := g }) hparty
  · rw [run_bind_ok (setFlags_run _ _), run_get_bind] at h
    rw [← hflags]
    exact h

theorem sendHelloAckMessage_turns {w : Process}
    (reason : w.lib.flags.hellorecvd = true ∨ w.lib.flags.helloackrecvd = true) :
    WithinAt (TakesTurns heard) w (sendHelloAckMessage env F) := by
  intro r w' h
  cases ha : acks w.lib.flags with
  | false =>
    rcases sendHelloAckMessage_refused env F ha with ⟨r', l, hrun, hl⟩
    have hsame : party { w with lib := l } = party w := by
      rcases hl with rfl | rfl <;> rfl
    cases h.symm.trans hrun
    exact .single (turns_quiet rfl hsame)
  | true =>
    rcases sendHelloAckMessage_said env hF ha h with ⟨v, hqueue, hparty, hrest⟩
    have hturn : TakesTurns heard w v := by
      apply turns_turn hqueue
      rw [hparty]
      exact .acknowledge ha reason
    exact .head hturn (Within.bind (.ite hF.receive (.pure ())) (fun _ => .pure 0) v r w' hrest)

end Sending

/-! ## What is heard -/

section Hearing
variable {heard : Signal → Prop} {F : Functors Globals} (env : Env) (hF : Transmits heard F)
include hF

/-- A HELLO is heard with its key. -/
theorem receivedHello_turns {key : ℤ} (hk : heard (.hello (BitVec.ofInt 32 key))) (size : ℤ) :
    Within (TakesTurns heard) (do
      setLib (setKey key)
      setLib (lowerMaxpacketsize size)
      let _ ← receivedHelloMessage env F : Op Unit) := by
  intro w
  let l : Lib := lowerMaxpacketsize size (setKey key w.lib)
  let u : Process := { w with lib := { l with flags := { l.flags with hellorecvd := true } } }
  have hrun : (do
      setLib (setKey key)
      setLib (lowerMaxpacketsize size)
      let _ ← receivedHelloMessage env F : Op Unit).run w =
        (do let _ ← sendHelloAckMessage env F : Op Unit).run u := rfl
  have hflags : l.flags = w.lib.flags := lowerMaxpacketsize_flags _ _
  have hkey : l.session.encryptionKey = BitVec.ofInt 32 key := lowerMaxpacketsize_key _ _
  have hparty : party u =
      { party w with
        flags := { w.lib.flags with hellorecvd := true }, key := BitVec.ofInt 32 key } := by
    simp only [u, party, hflags, hkey]
  have hturn : Turn heard (party w) (party u) := by
    rw [hparty]
    exact .hello _ hk
  have hsteps : TakesTurns heard w u := turns_turn rfl hturn
  exact .of_run_eq hrun (.single hsteps)
    (.bind_pure (sendHelloAckMessage_turns env hF (Or.inl rfl)))

omit hF in
theorem settle_turns {w : Process}
    (h : w.lib.flags.hellosent = true → w.lib.flags.helloacksent = true) (i : ℤ) :
    WithinAt (TakesTurns heard) w (do
      setFlags fun f => { f with hellosent := false, helloackrecvd := false }
      return i : Op ℤ) :=
  .bind_pure (setFlags_turns (.settle h))

/-- With `signaling_complete` set before the answer, nothing is read in between. -/
theorem receivedHelloAckMessage_turns (hk : heard .helloAck) :
    Within (TakesTurns heard) (receivedHelloAckMessage env F) := by
  intro w
  let u : Process :=
    { w with lib := { w.lib with flags := ackFlags w.lib.flags }, log := .completed :: w.log }
  have hrun : (receivedHelloAckMessage env F).run w = (do
      let i ← (if w.lib.flags.helloacksent then pure 0 else sendHelloAckMessage env F)
      setFlags fun f => { f with hellosent := false, helloackrecvd := false }
      return i : Op ℤ).run u := rfl
  have hparty : party u = { party w with flags := ackFlags w.lib.flags } := by
    simp only [u, party, saidIn_cons (e := .completed) rfl]
  have hturn : Turn heard (party w) (party u) := by
    rw [hparty]
    exact .helloAck hk
  have hsteps : TakesTurns heard w u := turns_turn rfl hturn
  apply WithinAt.of_run_eq hrun (.single hsteps)
  by_cases hsent : w.lib.flags.helloacksent = true
  · rw [if_pos hsent]
    exact settle_turns (w := u) (fun _ => hsent) 0
  · rw [if_neg hsent]
    apply (sendHelloAckMessage_turns env hF (w := u) (Or.inr rfl)).bind
    intro i v hi
    apply settle_turns
    cases ha : acks u.lib.flags with
    | false =>
      -- nothing was said, because no HELLO is out
      have hquiet : u.lib.flags.hellosent = false := by
        revert ha hsent
        simp only [u, acks, ackFlags]
        grind
      rcases sendHelloAckMessage_refused env F ha with ⟨r, l, hack, hl⟩
      cases hi.symm.trans hack
      have hf : l.flags = u.lib.flags := by rcases hl with rfl | rfl <;> rfl
      simp [hf, hquiet]
    | true =>
      rcases sendHelloAckMessage_said env hF ha hi with ⟨x, -, hsaid, hrest⟩
      cases hrest
      have hflags : v.lib.flags = { u.lib.flags with helloacksent := true } :=
        congrArg Party.flags hsaid
      simp [hflags]

/-! The messages about the end of a session have no payload and are not sent. -/

omit hF in
theorem bye_turns {f : Flags → Flags} (hf : ∀ g, beyondBye (f g) = beyondBye g) :
    Within (TakesTurns heard) (setFlags f : Op Unit) :=
  fun w => setFlags_turns (.bye _ (hf w.lib.flags))

omit hF in
theorem sendEmpty_run (kind : BitVec 32) {w : Process} {β : Type} (k : ℤ → Op β) :
    (do
      let msg ← onLib (signalingMessage env kind [])
      let status ← sendMessage env F msg
      k status : Op β).run w = (k 0).run { w with lib := w.lib.constructed } := rfl

omit hF in
theorem construct_turns (w : Process) : TakesTurns heard w { w with lib := w.lib.constructed } :=
  turns_quiet rfl rfl

omit hF in
theorem sendByeAckMessage_turns : Within (TakesTurns heard) (sendByeAckMessage env F) := by
  refine .bind .get fun x => .ite (.pure _) fun w => ?_
  apply WithinAt.of_run_eq (sendEmpty_run env 23 _) (.single (construct_turns w))
  apply Within.bind (bye_turns ?_)
  · exact fun _ => .pure _
  · exact fun _ => rfl

omit hF in
theorem receivedByeMessage_turns : Within (TakesTurns heard) (receivedByeMessage env F) :=
  .bind (bye_turns fun _ => rfl) fun _ => sendByeAckMessage_turns env

omit hF in
theorem receivedByeAckMessage_turns : Within (TakesTurns heard) (receivedByeAckMessage env F) :=
  .bind (bye_turns fun _ => rfl) fun _ => .bind .get fun _ =>
    .bind (bye_turns fun _ => rfl) fun _ => .ite (.pure _) (sendByeAckMessage_turns env)

theorem sendByeMessage_turns : Within (TakesTurns heard) (sendByeMessage env F) := by
  intro w
  apply WithinAt.of_run_eq (sendEmpty_run env 22 _) (.single (construct_turns w))
  apply Within.bind (bye_turns ?_)
  · exact fun _ => await_turns env hF _ _
  · exact fun _ => rfl

theorem stopSession_turns : Within (TakesTurns heard) (Library.stopSession env F) := by
  refine .bind (setLib_turns (fun _ => rfl) fun _ => rfl) fun _ => .bind .get fun _ =>
    .ite (.pure _) (.bind .get fun _ => .bind (.ite ?_ (.pure _)) fun _ =>
      .bind .get fun _ => .pure _)
  exact .bind (sendByeMessage_turns env hF) fun _ => .pure _

theorem startSession_turns : Within (TakesTurns heard) (startSession env F) := by
  refine .bind .get fun _ => .bind (.ite (signaling_turns env hF) (.pure _)) fun _ =>
    .ite (.pure _) ?_
  exact .bind (setLib_turns (fun _ => rfl) fun _ => rfl) fun _ => .pure _

theorem verifySignalling_turns (mem : Mem) :
    Within (TakesTurns heard) (verifySignalling env F mem) := by
  refine .bind .get fun _ => .ite (.ite ?_ (onLib_turns fun _ _ _ h => ?_)) (.pure _)
  · refine .bind (setLib_turns (fun _ => rfl) fun _ => rfl) fun _ => .bind .get fun _ =>
      .ite ?_ (.pure _)
    exact .bind (setLib_turns (fun _ => rfl) fun _ => rfl) fun _ => stopSession_turns env hF
  · cases h
    exact ⟨rfl, rfl⟩

theorem dispatch_turns {msg : SRPPMessage}
    (hello : msg.srppHeader.srppSignalling = 12 → heard (.hello (BitVec.ofInt 32
      (atoi (firstField msg.encryptedPart.originalPayload)))))
    (helloAck : msg.srppHeader.srppSignalling = 13 → heard .helloAck) :
    Within (TakesTurns heard) (dispatch env F msg) := by
  unfold dispatch
  dsimp only
  split_ifs with h12 h13 h22 h23
  · exact receivedHello_turns env hF (hello h12) _
  · refine .bind (setLib_turns (fun l => lowerMaxpacketsize_flags _ l)
      fun l => lowerMaxpacketsize_key _ l) fun _ => ?_
    exact .bind (receivedHelloAckMessage_turns env hF (helloAck h13)) fun _ => .pure _
  · exact .bind (receivedByeMessage_turns env) fun _ => .pure _
  · exact .bind (receivedByeAckMessage_turns env) fun _ => .pure _
  · exact .pure _

/-- A datagram in memory is dispatched only as what it says. -/
theorem processReceivedData_turns {mem : Mem} {n : ℤ}
    (hsaid : ∀ s, readSignal mem n = some s → heard s) :
    Within (TakesTurns heard) (processReceivedData env F mem n) := by
  intro w
  apply WithinAt.of_run_eq (run_bind_ok (onLib_run (createMessage_run w.lib env [])))
    (.single (construct_turns w))
  apply WithinAt.get_bind
  dsimp only
  split_ifs with hout hsig
  · exact Within.bind (.lift _) (fun _ => .pure _) _
  · apply (Within.lift _ _).bind
    intro r w' hrun
    rcases run_lift_eq_ok hrun with ⟨hd, rfl⟩
    have hheader := networkToSrpp_srppHeader hd
    have htext := networkToSrpp_signalText rfl hsig hd
    split_ifs
    · refine .bind_pure (dispatch_turns env hF ?_ ?_ _)
      · intro h12
        apply hsaid
        rw [readSignal, if_pos hsig, ← hheader, if_pos h12, htext]
      · intro h13
        apply hsaid
        rw [readSignal, if_pos hsig, ← hheader, h13, if_neg (by decide), if_pos rfl]
    · exact Within.pure _ _
  · apply (verifySignalling_turns env hF mem _).bind
    intro status u _
    apply WithinAt.get_bind
    split_ifs
    · apply (Within.lift _ _).bind
      intro r w' hrun
      rcases run_lift_eq_ok hrun with ⟨hd, rfl⟩
      -- the header is the same as in the buffer, so this is no signalling message
      rw [if_neg (mt (isSignalingMessage_iff hd).mp hsig)]
      exact Within.pure _ _
    · exact Within.pure _ _

end Hearing

end Sqrkal.Discovery
