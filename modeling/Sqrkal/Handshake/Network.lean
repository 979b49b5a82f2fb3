import Sqrkal.Handshake.Endpoint
import Mathlib.Logic.Relation

/-! # Two endpoints and the messages between them

Either endpoint may call `signaling()` at any time, and may receive any message
its peer has ever sent, any number of times and in any order. A nested read is
a step of its own: a handler with reads of its own does what the handler without
them does, followed by these reads, so a run with nested reads is a run without.
-/

namespace Sqrkal.Handshake
open Foundation Message Library Relation

inductive Side where
  | left
  | right
deriving DecidableEq

namespace Side

def peer : Side → Side
  | left => right
  | right => left

@[simp] theorem peer_peer (x : Side) : x.peer.peer = x := by
  cases x <;> rfl

theorem peer_ne (x : Side) : x.peer ≠ x := by
  cases x <;> decide

theorem eq_or_eq_peer (x y : Side) : y = x ∨ y = x.peer := by
  cases x <;> cases y <;> simp [peer]

end Side

abbrev Net := Side → Endpoint

/-- One step of the network. -/
inductive Step (env : Side → Env) (net : Net) : Net → Prop
  | initiate (x : Side) {status : ℤ} {w : Endpoint}
      (h : (signaling (env x) channel).run (net x) = .ok (status, w)) :
      Step env net (Function.update net x w)
  | deliver (x : Side) {d : List Byte} (junk : Mem) (hd : d ∈ (net x.peer).ext)
      {r : Option SRPPMessage} {w : Endpoint}
      (h : (processReceivedData (env x) channel (junk.around d) d.length).run (net x) = .ok (r, w)) :
      Step env net (Function.update net x w)

/-- Both processes before any signalling, in in-band mode. -/
def Initial (net : Net) : Prop :=
  ∀ x, (net x).lib.flags = {} ∧ (net x).lib.signalingBySrpp = true ∧ (net x).ext = []

/-- What the two endpoints negotiate about. -/
def locals (net : Net) : Side → Local := fun x => localOf (net x)

theorem locals_update (net : Net) (x : Side) (w : Endpoint) :
    locals (Function.update net x w) = Function.update (locals net) x (localOf w) := by
  funext y
  by_cases h : y = x
  · subst h
    simp [locals]
  · simp [locals, h]

section Effects
variable {env : Side → Env} {net : Net} {x : Side} {w : Endpoint}

theorem initiate_effect {status : ℤ}
    (h : (signaling (env x) channel).run (net x) = .ok (status, w)) :
    ∃ hellos, localOf w = (locals net x).initiate (drawnKey (env x) (net x)) hellos ∧
      ((locals net x).busy = false → hellos ≠ [] ∧
        ∀ d ∈ hellos, IsHello (drawnKey (env x) (net x)) (locals net x).max d) := by
  rcases signaling_local (env x) (net x) with ⟨status', w', hellos, hr, hl, hs⟩
  rw [hr] at h
  obtain rfl := (Prod.mk.inj (Except.ok.inj h)).2
  exact ⟨hellos, hl, hs⟩

variable {d : List Byte} {junk : Mem} {r : Option SRPPMessage}

theorem hello_effect {key : ℕ} {psize : ℤ} (hd : IsHello key psize d) (hk : key < 65536)
    (hb : (locals net x).inBand = true)
    (h : (processReceivedData (env x) channel (junk.around d) d.length).run (net x) = .ok (r, w)) :
    ∃ ack, localOf w = (locals net x).hello key (atoi (helloSizeText key psize)) ack ∧
      (acks { (locals net x).flags with hellorecvd := true } → IsHelloAck (localOf w).max ack) := by
  rcases deliver_hello (env x) junk hd hk hb with ⟨r', w', ack, hr, hl, ha⟩
  rw [hr] at h
  obtain rfl := (Prod.mk.inj (Except.ok.inj h)).2
  exact ⟨ack, hl, ha⟩

theorem helloAck_effect {psize : ℤ} (hd : IsHelloAck psize d) (hb : (locals net x).inBand = true)
    (h : (processReceivedData (env x) channel (junk.around d) d.length).run (net x) = .ok (r, w)) :
    ∃ ack, localOf w =
        (locals net x).helloAck (atoi ((decimal psize).take 5 ++ text "YES")) ack ∧
      (acks (ackFlags (locals net x).flags) → IsHelloAck (localOf w).max ack) := by
  rcases deliver_helloAck (env x) junk hd hb with ⟨r', w', ack, hr, hl, ha⟩
  rw [hr] at h
  obtain rfl := (Prod.mk.inj (Except.ok.inj h)).2
  exact ⟨ack, hl, ha⟩

end Effects

/-! ## Nested reads -/

section Nested
variable {α β γ : Type} (receive : World.Op (List (List Byte)) Unit)

/-- Some runs of the receive functor. -/
def Receives : Endpoint → Endpoint → Prop :=
  ReflTransGen fun u v => receive.run u = .ok ((), v)

/-- What `x` reaches, `y` reaches up to some reads. -/
def Follows (x : World.Op (List (List Byte)) α) (y : World.Op (List (List Byte)) β) : Prop :=
  ∀ w a w', x.run w = .ok (a, w') → ∃ b u, y.run w = .ok (b, u) ∧ Receives receive u w'

variable {receive}

theorem Follows.refl (x : World.Op (List (List Byte)) α) : Follows receive x x :=
  fun _ a w' h => ⟨a, w', h, .refl⟩

theorem Follows.bind (x : World.Op (List (List Byte)) γ) {f : γ → World.Op (List (List Byte)) α}
    {g : γ → World.Op (List (List Byte)) β} (h : ∀ c, Follows receive (f c) (g c)) :
    Follows receive (x >>= f) (x >>= g) := by
  intro w a w' hr
  rcases run_bind_eq_ok hr with ⟨c, t, hx, hf⟩
  rcases h c t a w' hf with ⟨b, u, hg, hrec⟩
  exact ⟨b, u, by rw [run_bind_ok hx, hg], hrec⟩

theorem Follows.then_pure {x : World.Op (List (List Byte)) α} {y : World.Op (List (List Byte)) β}
    (h : Follows receive x y) (c : γ) :
    Follows receive (x >>= fun _ => pure c) (y >>= fun _ => pure c) := by
  intro w a w' hr
  rcases run_bind_eq_ok hr with ⟨b, t, hx, hf⟩
  rcases h w b t hx with ⟨b', u, hy, hrec⟩
  cases hf
  exact ⟨c, u, by rw [run_bind_ok hy]; rfl, hrec⟩

theorem Follows.ite {c : Prop} [Decidable c] {x x' : World.Op (List (List Byte)) α}
    {y y' : World.Op (List (List Byte)) β} (h : Follows receive x y) (h' : Follows receive x' y') :
    Follows receive (if c then x else x') (if c then y else y') := by
  split_ifs
  · exact h
  · exact h'

theorem receive_follows :
    Follows receive (channelWith receive).receive channel.receive :=
  fun w _ _ h => ⟨(), w, rfl, .single h⟩

theorem waitFor_receives (done : Flags → Bool) (n : ℕ) {w w' : Endpoint} {status : ℤ}
    (h : (waitFor (channelWith receive) done n).run w = .ok (status, w')) :
    Receives receive w w' := by
  induction n generalizing w with
  | zero =>
    rw [waitFor, run_get_bind] at h
    split_ifs at h
    · cases h
      exact .refl
    · rcases run_bind_eq_ok h with ⟨_, t, hr, hp⟩
      cases hp
      exact .single hr
  | succ n ih =>
    rw [waitFor, run_get_bind] at h
    split_ifs at h
    · cases h
      exact .refl
    · rcases run_bind_eq_ok h with ⟨_, t, hr, hp⟩
      exact .head hr (ih hp)

variable (env : Env)

theorem sendHelloAckMessage_follows :
    Follows receive (sendHelloAckMessage env (channelWith receive))
      (sendHelloAckMessage env channel) := by
  unfold sendHelloAckMessage
  refine .bind _ fun w => .ite (.refl _) (.bind _ fun w' => .bind _ fun msg => .ite ?_ (.refl _))
  refine .bind (sendMessage env channel msg) fun _ => .bind _ fun _ => .bind _ fun w'' => ?_
  exact (Follows.ite receive_follows (.refl _)).then_pure 0

/-- Once signalling is complete the acknowledgement reads nothing. -/
theorem sendHelloAckMessage_of_complete {w : Endpoint} (h : w.lib.flags.signalingComplete = true) :
    (sendHelloAckMessage env (channelWith receive)).run w = (sendHelloAckMessage env channel).run w := by
  unfold sendHelloAckMessage
  rw [run_get_bind, run_get_bind]
  dsimp only
  split_ifs with hg hs
  · rfl
  · rw [run_get_bind, run_get_bind]
    obtain ⟨msg, hm, hc⟩ := signalingMessage_run env w.lib 13
      (helloAckOptions w.lib.session.maxpacketsize)
    obtain ⟨d, w', -, hr, hl⟩ := sendMessage_channel env { w with lib := w.lib.constructed } hc
      (by decide) (helloAckOptions_ne_nil _)
    have hf : w'.lib.flags.signalingComplete = true :=
      (congrArg (fun s => s.flags.signalingComplete) hl).trans h
    have hr' : (sendMessage env (channelWith receive) msg).run { w with lib := w.lib.constructed } =
      .ok ((d.length : ℤ), w') := hr
    rw [run_bind_ok (onLib_run hm), run_bind_ok (onLib_run hm), run_bind_ok hr, run_bind_ok hr',
      run_bind_ok (setFlags_run _ _), run_bind_ok (setFlags_run _ _), run_get_bind, run_get_bind]
    simp only [hf, Bool.not_true, Bool.false_eq_true, if_false]
  · rfl

theorem receivedHelloAckMessage_eq :
    receivedHelloAckMessage env (channelWith receive) = receivedHelloAckMessage env channel := by
  funext w
  let v : Endpoint :=
    { w with lib := { w.lib with flags := ackFlags w.lib.flags }, log := .completed :: w.log }
  have hv := @sendHelloAckMessage_of_complete receive env v rfl
  change ((if w.lib.flags.helloacksent then pure 0
      else sendHelloAckMessage env (channelWith receive)) >>= fun i =>
        setFlags (fun f => { f with hellosent := false, helloackrecvd := false }) >>=
          fun _ => pure i).run v =
    ((if w.lib.flags.helloacksent then pure 0 else sendHelloAckMessage env channel) >>= fun i =>
        setFlags (fun f => { f with hellosent := false, helloackrecvd := false }) >>=
          fun _ => pure i).run v
  rw [StateT.run_bind, StateT.run_bind]
  split_ifs
  · rfl
  · rw [hv]

theorem verifySignalling_eq (mem : Mem) :
    verifySignalling env (channelWith receive) mem = verifySignalling env channel mem := by
  have hstop : (do
      setLib fun l => { l with srppEnabled := 0 }
      stopSession env (channelWith receive) : World.Op _ _) = (do
      setLib fun l => { l with srppEnabled := 0 }
      stopSession env channel) := by
    funext w
    exact ((run_bind_ok (setLib_run _ _)).trans (stopSession_disabled env _ rfl)).trans
      ((run_bind_ok (setLib_run _ _)).trans (stopSession_disabled env _ rfl)).symm
  unfold verifySignalling
  rw [hstop]

theorem dispatch_follows (msg : SRPPMessage) :
    Follows receive (dispatch env (channelWith receive) msg) (dispatch env channel msg) := by
  unfold dispatch
  refine .ite ?_ (.ite ?_ (.refl _))
  · refine .bind _ fun _ => .bind _ fun _ => Follows.then_pure ?_ _
    exact .bind _ fun _ => sendHelloAckMessage_follows env
  · rw [receivedHelloAckMessage_eq]
    exact .refl _

/-- Processing a message with reads of its own is processing it without them, and
then reading. -/
theorem processReceivedData_follows (mem : Mem) (bytesRead : ℤ) :
    Follows receive (processReceivedData env (channelWith receive) mem bytesRead)
      (processReceivedData env channel mem bytesRead) := by
  unfold processReceivedData
  rw [verifySignalling_eq]
  refine .bind _ fun msg => .bind _ fun w => .ite (.refl _) (.ite ?_ ?_)
  · exact .bind _ fun r => .ite ((dispatch_follows env r.2).then_pure none) (.refl _)
  · refine .bind _ fun status => .bind _ fun w' => .ite ?_ (.refl _)
    exact .bind _ fun r => .ite ((dispatch_follows env r.2).then_pure none) (.refl _)

/-- A `signaling()` call is its HELLOs, and then reading. -/
theorem signaling_follows :
    Follows receive (signaling env (channelWith receive)) (signaling env channel) := by
  unfold signaling sendHelloMessage
  refine .bind _ fun _ => .bind _ fun w => .ite (.refl _) (.bind _ fun key => .bind _ fun w' =>
    .bind _ fun _ => .bind _ fun _ => ?_)
  have hs : sendHellos env (channelWith receive) = sendHellos env channel := by
    funext options n
    induction n with
    | zero => rfl
    | succ n ih =>
      unfold sendHellos
      rw [ih]
      rfl
  rw [hs]
  refine .bind _ fun sent => .ite (.bind _ fun w'' => .ite (.refl _) (.bind _ fun _ => ?_)) (.refl _)
  intro u a u' h
  rcases run_bind_eq_ok h with ⟨_, t, hr, hw⟩
  obtain ⟨status, hq⟩ := waitFor_channel Flags.signalingComplete 120000 u
  exact ⟨status, u, hq, .head hr (waitFor_receives _ _ hw)⟩

end Nested

/-! ## Runs with nested reads -/

/-- A receive functor that, each time it is called, does nothing, processes one of the messages
or calls `signaling()`, within a handler that reads in the same way. -/
inductive Reads (env : Env) (messages : List (List Byte)) (mayStart : Endpoint → Prop) :
    World.Op (List (List Byte)) Unit → Prop
  | nothing : Reads env messages mayStart (pure ())
  | nested {inner receive : World.Op (List (List Byte)) Unit}
      (hinner : Reads env messages mayStart inner)
      (hread : ∀ u v, receive.run u = .ok ((), v) → v = u ∨
        (∃ d ∈ messages, ∃ junk r, (processReceivedData env (channelWith inner)
          (Mem.around junk d) d.length).run u = .ok (r, v)) ∨
        mayStart u ∧ ∃ status, (signaling env (channelWith inner)).run u = .ok (status, v)) :
      Reads env messages mayStart receive

/-- A step of the network in which the handlers read, as long as they last, what the peer has
sent before. -/
inductive NestedStep (env : Side → Env) (mayStart : Side → Net → Prop) (net : Net) : Net → Prop
  | initiate (x : Side) {receive : World.Op (List (List Byte)) Unit}
      (hr : Reads (env x) (net x.peer).ext (fun u => mayStart x (Function.update net x u)) receive)
      (hs : mayStart x net) {status : ℤ} {w : Endpoint}
      (h : (signaling (env x) (channelWith receive)).run (net x) = .ok (status, w)) :
      NestedStep env mayStart net (Function.update net x w)
  | deliver (x : Side) {receive : World.Op (List (List Byte)) Unit}
      (hr : Reads (env x) (net x.peer).ext (fun u => mayStart x (Function.update net x u)) receive)
      {d : List Byte} (junk : Mem) (hd : d ∈ (net x.peer).ext) {r : Option SRPPMessage} {w : Endpoint}
      (h : (processReceivedData (env x) (channelWith receive) (junk.around d) d.length).run (net x) =
        .ok (r, w)) :
      NestedStep env mayStart net (Function.update net x w)

theorem Step.nested {env : Side → Env} {net net' : Net} (h : Step env net net') :
    NestedStep env (fun _ _ => True) net net' := by
  cases h with
  | initiate x h => exact .initiate x .nothing trivial h
  | deliver x junk hd h => exact .deliver x .nothing junk hd h

section NestedRuns
variable {env : Side → Env} {mayStart : Side → Net → Prop} {S : Net → Net → Prop}
  (hinitiate : ∀ {net : Net} {x : Side} {status : ℤ} {w : Endpoint}, mayStart x net →
    (signaling (env x) channel).run (net x) = .ok (status, w) → S net (Function.update net x w))
  (hdeliver : ∀ {net : Net} {x : Side} {d : List Byte} {junk : Mem} {r : Option SRPPMessage}
    {w : Endpoint}, d ∈ (net x.peer).ext →
    (processReceivedData (env x) channel (junk.around d) d.length).run (net x) = .ok (r, w) →
    S net (Function.update net x w))
include hinitiate hdeliver

omit hinitiate hdeliver in
/-- A sequence of reads is a sequence of steps if a single one is. -/
theorem receives_run {net : Net} {x : Side} {receive : World.Op (List (List Byte)) Unit}
    (hread : ∀ u v, receive.run u = .ok ((), v) →
      ReflTransGen S (Function.update net x u) (Function.update net x v)) {u v : Endpoint}
    (h : Receives receive u v) : ReflTransGen S (Function.update net x u) (Function.update net x v) := by
  induction h with
  | refl => exact .refl
  | tail _ hlast ih => exact ih.trans (hread _ _ hlast)

/-- A read, with all that is nested in it, is a sequence of steps. -/
theorem Reads.run {net : Net} {x : Side} {receive : World.Op (List (List Byte)) Unit}
    (hr : Reads (env x) (net x.peer).ext (fun u => mayStart x (Function.update net x u)) receive)
    {u v : Endpoint} (h : receive.run u = .ok ((), v)) :
    ReflTransGen S (Function.update net x u) (Function.update net x v) := by
  induction hr generalizing u v with
  | nothing =>
    cases h
    exact .refl
  | nested _ hread ih =>
    have hpeer : (Function.update net x u) x.peer = net x.peer := Function.update_of_ne x.peer_ne ..
    have hown : (Function.update net x u) x = u := Function.update_self ..
    rcases hread u v h with rfl | ⟨d, hd, junk, r, hrun⟩ | ⟨hs, status, hrun⟩
    · exact .refl
    · rcases processReceivedData_follows (env x) _ _ u r v hrun with ⟨r', t, hplain, hreads⟩
      rw [← hpeer] at hd
      have hstep := hdeliver hd ((congrArg _ hown).trans hplain)
      rw [Function.update_idem] at hstep
      exact .head hstep (receives_run (fun _ _ => ih) hreads)
    · rcases signaling_follows (env x) u status v hrun with ⟨status', t, hplain, hreads⟩
      have hstep := hinitiate hs ((congrArg _ hown).trans hplain)
      rw [Function.update_idem] at hstep
      exact .head hstep (receives_run (fun _ _ => ih) hreads)

/-- A run with nested reads is a run in which every read is a step. -/
theorem nested_run {net net' : Net} (hrun : ReflTransGen (NestedStep env mayStart) net net') :
    ReflTransGen S net net' := by
  induction hrun with
  | refl => exact .refl
  | tail _ hstep ih =>
    refine ih.trans ?_
    cases hstep with
    | initiate x hr hs h =>
      rcases signaling_follows (env x) _ _ _ h with ⟨status, t, hplain, hreads⟩
      refine .head (hinitiate hs hplain) ?_
      exact receives_run (fun _ _ => hr.run hinitiate hdeliver) hreads
    | deliver x hr junk hd h =>
      rcases processReceivedData_follows (env x) _ _ _ _ _ h with ⟨r, t, hplain, hreads⟩
      refine .head (hdeliver hd hplain) ?_
      exact receives_run (fun _ _ => hr.run hinitiate hdeliver) hreads

end NestedRuns

end Sqrkal.Handshake
