import Sqrkal.Foundation.Behavior
import Sqrkal.Handshake.Calls
import Sqrkal.Handshake.SizeNegotiation

/-! # The handshake completes

A HELLO is answered by an acknowledgement, an acknowledgement completes its receiver, and an
endpoint that completes has acknowledged. So it is enough that every message arrives once,
late, repeated or out of order as it may be.
-/

namespace Sqrkal.Handshake
open Foundation Message Library Relation Filter

/-- A message of the peer reaches an endpoint. -/
def Delivers (env : Side → Env) (x : Side) (d : List Byte) (net net' : Net) : Prop :=
  d ∈ (net x.peer).ext ∧ ∃ (junk : Mem) (r : Option SRPPMessage) (w : Endpoint),
    (processReceivedData (env x) channel (junk.around d) d.length).run (net x) = .ok (r, w) ∧
      net' = Function.update net x w

theorem Delivers.step {env : Side → Env} {x : Side} {d : List Byte} {net net' : Net}
    (h : Delivers env x d net net') : OrderedStep env net net' := by
  rcases h with ⟨hd, junk, r, w, hrun, rfl⟩
  exact .deliver x junk hd hrun

/-- Every message that is ever sent arrives at some moment. -/
def IsFair (env : Side → Env) (run : ℕ → Net) : Prop :=
  ∀ n x d, d ∈ (run n x.peer).ext → ∃ m, Delivers env x d (run m) (run (m + 1))

/-- A state that a network comes to from its start. -/
def Reachable (env : Side → Env) (net : Net) : Prop :=
  ∃ net₀, Initial net₀ ∧ ReflTransGen (Step env) net₀ net

def SendsHello (d : List Byte) : Prop := ∃ key psize, key < 65536 ∧ IsHello key psize d

def SendsHelloAck (d : List Byte) : Prop := ∃ psize, IsHelloAck psize d

theorem SendsHello.not_ack {d : List Byte} (h : SendsHello d) : ¬SendsHelloAck d := by
  rintro ⟨psize, hack⟩
  rcases h with ⟨key, psize', -, hello⟩
  have hkind := hello.datagramKind (by decide)
  rw [hack.datagramKind (by decide)] at hkind
  cases hkind

/-- The endpoint waits for an acknowledgement or has sent one. -/
def Local.Engaged (s : Local) : Prop := s.flags.hellosent = true ∨ s.flags.helloacksent = true

/-- What an endpoint and the messages it has sent say about each other. -/
structure Answering (a b : Local) : Prop where
  inBand : a.inBand = true
  settled : a.flags.helloackrecvd = false
  outbox : ∀ d ∈ a.outbox, SendsHello d ∧ a.Engaged ∨
    SendsHelloAck d ∧ a.flags.helloacksent = true ∧ b.Engaged
  acked : a.flags.helloacksent = true → ∃ d ∈ a.outbox, SendsHelloAck d

namespace Local
variable {s : Local} {key : ℕ} {size : ℤ} {ack : List Byte} {hellos : List (List Byte)}

theorem Engaged.initiate (h : s.Engaged) : (s.initiate key hellos).Engaged := by
  unfold Local.initiate
  split_ifs
  · exact h
  · exact .inl rfl

theorem Engaged.hello (h : s.Engaged) : (s.hello key size ack).Engaged := by
  simp only [Engaged, Local.hello, acknowledge_flags, lower_flags, Bool.or_eq_true] at h ⊢
  exact h.imp_right .inl

/-- Who waited for the acknowledgement sends one in turn. -/
theorem Engaged.helloAck_sent (h : s.Engaged) :
    (s.helloAck size ack).flags.helloacksent = true := by
  simp only [Engaged, Local.helloAck, settle, acknowledge_flags, lower_flags, ackFlags, acks] at h ⊢
  grind

theorem hello_sent (h : s.flags.helloackrecvd = false) :
    (s.hello key size ack).flags.helloacksent = true := by
  simp [Local.hello, acks, h]

theorem hello_acks (h : s.flags.helloackrecvd = false) (hf : s.flags.helloacksent = false) :
    acks { s.flags with hellorecvd := true } = true := by
  simp [acks, h, hf]

end Local

namespace Answering
variable {a b b' a' : Local} {key : ℕ} {size : ℤ} {ack : List Byte}

theorem peer (h : Answering a b) (hb : b.Engaged → b'.Engaged) : Answering a b' :=
  { h with outbox := fun d hd => (h.outbox d hd).imp_right fun ⟨hack, hs, he⟩ => ⟨hack, hs, hb he⟩ }

/-- An endpoint goes on, with at most one acknowledgement more. -/
theorem extend (h : Answering a b) (hband : a'.inBand = a.inBand)
    (hsettled : a'.flags.helloackrecvd = false) (hengaged : a.Engaged → a'.Engaged)
    (hkept : a.flags.helloacksent = true → a'.flags.helloacksent = true) {acked : Bool}
    (hout : a'.outbox = a.outbox ++ if acked then [ack] else [])
    (hsent : acked = true → SendsHelloAck ack ∧ a'.flags.helloacksent = true ∧ b.Engaged)
    (hnew : a'.flags.helloacksent = true → a.flags.helloacksent = true ∨ acked = true) :
    Answering a' b := by
  refine ⟨hband.trans h.inBand, hsettled, fun d hd => ?_, fun hf => ?_⟩
  · rw [hout, List.mem_append] at hd
    rcases hd with hd | hd
    · rcases h.outbox d hd with ⟨hello, he⟩ | ⟨hack, hs, he⟩
      · exact .inl ⟨hello, hengaged he⟩
      · exact .inr ⟨hack, hkept hs, he⟩
    · cases acked with
      | false => cases hd
      | true =>
        rw [if_pos rfl, List.mem_singleton] at hd
        exact .inr (hd ▸ hsent rfl)
  · rw [hout]
    rcases hnew hf with hold | rfl
    · rcases h.acked hold with ⟨d, hd, hack⟩
      exact ⟨d, List.mem_append_left _ hd, hack⟩
    · exact ⟨ack, by simp, (hsent rfl).1⟩

theorem hello (h : Answering a b) (hb : b.Engaged)
    (ha : acks { a.flags with hellorecvd := true } → SendsHelloAck ack) :
    Answering (a.hello key size ack) b := by
  have hsent : (a.hello key size ack).flags.helloacksent = true := Local.hello_sent h.settled
  refine h.extend ?_ ?_ Local.Engaged.hello (fun _ => hsent) (Local.hello_outbox _ _ _ _)
    (fun hacks => ⟨ha hacks, hsent, hb⟩) fun _ => ?_
  · simp [Local.hello]
  · simpa [Local.hello] using h.settled
  · cases hf : a.flags.helloacksent with
    | false => exact .inr (Local.hello_acks h.settled hf)
    | true => exact .inl rfl

theorem helloAck (h : Answering a b) (hb : b.Engaged)
    (ha : acks (ackFlags a.flags) → SendsHelloAck ack) : Answering (a.helloAck size ack) b := by
  have hflags : (a.helloAck size ack).flags.helloacksent =
      (a.flags.helloacksent || acks (ackFlags a.flags)) := by
    simp [Local.helloAck, Local.settle, ackFlags]
  refine h.extend ?_ ?_ (fun he => .inr he.helloAck_sent) (fun hf => ?_)
    (Local.helloAck_outbox _ _ _) (fun hacks => ⟨ha hacks, ?_, hb⟩) fun hf => ?_
  · simp [Local.helloAck, Local.settle]
  · simp [Local.helloAck, Local.settle]
  · rw [hflags, hf, Bool.true_or]
  · rw [hflags, hacks, Bool.or_true]
  · rwa [hflags, Bool.or_eq_true] at hf

theorem initiate (h : Answering a b) {hellos : List (List Byte)}
    (hh : a.busy = false → ∀ d ∈ hellos, SendsHello d) : Answering (a.initiate key hellos) b := by
  unfold Local.initiate
  split_ifs with hb
  · exact h
  · refine ⟨h.inBand, h.settled, fun d hd => ?_, fun hf => ?_⟩
    · rcases List.mem_append.mp hd with hd | hd
      · rcases h.outbox d hd with ⟨hello, -⟩ | ⟨hack, hs, he⟩
        · exact .inl ⟨hello, .inl rfl⟩
        · exact .inr ⟨hack, hs, he⟩
      · exact .inl ⟨hh (Bool.eq_false_of_not_eq_true hb) d hd, .inl rfl⟩
    · rcases h.acked hf with ⟨d, hd, hack⟩
      exact ⟨d, List.mem_append_left _ hd, hack⟩

end Answering

/-- Both endpoints answer. -/
def Answered (s : Side → Local) : Prop := ∀ x, Answering (s x) (s x.peer)

section Steps
variable {env : Side → Env} {net net' : Net} {x : Side} {w : Endpoint} {d : List Byte}

theorem Answered.update {s : Side → Local} {t : Local} (h : Answered s) (ht : Answering t (s x.peer))
    (he : (s x).Engaged → t.Engaged) : Answered (Function.update s x t) := by
  intro y
  rcases x.eq_or_eq_peer y with rfl | rfl
  · rwa [Function.update_self, Function.update_of_ne y.peer_ne]
  · rw [Function.update_of_ne x.peer_ne, Side.peer_peer, Function.update_self]
    have hpeer := h x.peer
    rw [Side.peer_peer] at hpeer
    exact hpeer.peer he

theorem drawnKey_lt (env : Env) (w : Endpoint) : drawnKey env w < 65536 :=
  lt_trans (Nat.mod_lt _ (by norm_num)) (by norm_num)

theorem Answered.initiate (h : Answered (locals net)) {status : ℤ}
    (hrun : (signaling (env x) channel).run (net x) = .ok (status, w)) :
    Answered (locals (Function.update net x w)) := by
  rcases initiate_effect hrun with ⟨hellos, hl, hs⟩
  rw [locals_update, hl]
  exact h.update ((h x).initiate fun hb d hd => ⟨_, _, drawnKey_lt _ _, (hs hb).2 d hd⟩)
    Local.Engaged.initiate

/-- A HELLO that arrives is acknowledged, unless one has been before. -/
theorem Answered.deliver_hello (h : Answered (locals net)) (hello : SendsHello d)
    (hdel : Delivers env x d net net') : Answered (locals net') ∧
      ∃ key size ack, locals net' = Function.update (locals net) x ((locals net x).hello key size ack) := by
  rcases hdel with ⟨hd, junk, r, w, hrun, rfl⟩
  rcases hello with ⟨key, psize, hk, hello⟩
  rcases hello_effect hello hk (h x).inBand hrun with ⟨ack, hl, ha⟩
  have hpeer : (locals net x.peer).Engaged := by
    rcases (h x.peer).outbox d hd with ⟨-, he⟩ | ⟨hack, -⟩
    · exact he
    · exact absurd hack (SendsHello.not_ack ⟨key, psize, hk, hello⟩)
  rw [locals_update, hl]
  exact ⟨h.update ((h x).hello hpeer fun hacks => ⟨_, ha hacks⟩) Local.Engaged.hello, _, _, ack, rfl⟩

/-- An acknowledgement arrives at an endpoint that waits for it or has sent one. -/
theorem Answered.deliver_ack (h : Answered (locals net)) (hack : SendsHelloAck d)
    (hdel : Delivers env x d net net') : Answered (locals net') ∧ (locals net x).Engaged ∧
      ∃ size ack, locals net' = Function.update (locals net) x ((locals net x).helloAck size ack) := by
  rcases hdel with ⟨hd, junk, r, w, hrun, rfl⟩
  have hpeer := h x.peer
  rw [Side.peer_peer] at hpeer
  rcases hpeer.outbox d hd with ⟨hello, -⟩ | ⟨-, hsent, he⟩
  · exact absurd hack hello.not_ack
  rcases hack with ⟨psize, hack⟩
  rcases helloAck_effect hack (h x).inBand hrun with ⟨ack, hl, ha⟩
  rw [locals_update, hl]
  exact ⟨h.update ((h x).helloAck (.inr hsent) fun hacks => ⟨_, ha hacks⟩)
    fun he => .inr he.helloAck_sent, he, _, ack, rfl⟩

theorem Answered.sends (h : Answered (locals net)) (hd : d ∈ (net x).ext) :
    SendsHello d ∨ SendsHelloAck d :=
  ((h x).outbox d hd).imp (fun hello => hello.1) fun hack => hack.1

/-- A state in which both endpoints answer and one of them has completed. -/
def Completes (x : Side) (net : Net) : Prop :=
  Answered (locals net) ∧ (locals net x).flags.signalingComplete = true

/-- What an endpoint does not take back, its messages and its completion, and what the handshake
does not touch. -/
structure Local.Precedes (s t : Local) : Prop where
  outbox : s.outbox <+: t.outbox
  complete : s.flags.signalingComplete = true → t.flags.signalingComplete = true
  session : t.flags.sessionComplete = s.flags.sessionComplete

theorem Local.precedes_update {s : Side → Local} {t : Local} {x : Side} (h : (s x).Precedes t)
    (y : Side) : (s y).Precedes (Function.update s x t y) := by
  rcases x.eq_or_eq_peer y with rfl | rfl
  · rwa [Function.update_self]
  · rw [Function.update_of_ne x.peer_ne]
    exact ⟨List.prefix_rfl, id, rfl⟩

theorem Local.precedes_initiate (s : Local) (key : ℕ) (hellos : List (List Byte)) :
    s.Precedes (s.initiate key hellos) := by
  unfold Local.initiate
  split_ifs
  · exact ⟨List.prefix_rfl, id, rfl⟩
  · exact ⟨List.prefix_append _ _, id, rfl⟩

theorem Local.precedes_hello (s : Local) (key : ℕ) (size : ℤ) (ack : List Byte) :
    s.Precedes (s.hello key size ack) := by
  constructor
  · rw [Local.hello_outbox]
    exact List.prefix_append _ _
  · simp [Local.hello]
  · simp [Local.hello]

theorem Local.precedes_helloAck (s : Local) (size : ℤ) (ack : List Byte) :
    s.Precedes (s.helloAck size ack) := by
  constructor
  · rw [Local.helloAck_outbox]
    exact List.prefix_append _ _
  · simp [Local.helloAck, Local.settle, ackFlags]
  · simp [Local.helloAck, Local.settle, ackFlags]

/-- A step keeps both endpoints answering, and takes nothing back. -/
theorem Answered.step (h : Answered (locals net)) (hstep : Step env net net') :
    Answered (locals net') ∧ ∀ y, (locals net y).Precedes (locals net' y) := by
  cases hstep with
  | initiate x hrun =>
    rcases initiate_effect hrun with ⟨hellos, hl, -⟩
    refine ⟨h.initiate hrun, ?_⟩
    rw [locals_update, hl]
    exact Local.precedes_update (Local.precedes_initiate _ _ _)
  | deliver x junk hd hrun =>
    have hdel : Delivers env x _ net _ := ⟨hd, junk, _, _, hrun, rfl⟩
    rcases h.sends hd with hello | hack
    · rcases h.deliver_hello hello hdel with ⟨hnext, key, size, ack, hlocals⟩
      refine ⟨hnext, ?_⟩
      rw [hlocals]
      exact Local.precedes_update (Local.precedes_hello _ _ _ _)
    · rcases h.deliver_ack hack hdel with ⟨hnext, -, size, ack, hlocals⟩
      refine ⟨hnext, ?_⟩
      rw [hlocals]
      exact Local.precedes_update (Local.precedes_helloAck _ _ _)

theorem Answered.outbox_grows (h : Answered (locals net)) (hrun : ReflTransGen (Step env) net net')
    (y : Side) : (net y).ext <+: (net' y).ext := by
  induction hrun using ReflTransGen.head_induction_on with
  | refl => exact List.prefix_rfl
  | head hstep _ ih =>
    rcases h.step hstep with ⟨hnext, hkept⟩
    exact (hkept y).outbox.trans (ih hnext)

theorem Completes.step {y : Side} (hstep : Step env net net') (h : Completes y net) :
    Completes y net' := by
  rcases h.1.step hstep with ⟨hnext, hkept⟩
  exact ⟨hnext, (hkept y).complete h.2⟩

theorem Reachable.answered (h : Reachable env net) : Answered (locals net) := by
  rcases h with ⟨net₀, h₀, hrun⟩
  induction hrun with
  | refl =>
    intro x
    rcases h₀ x with ⟨hf, hb, ho⟩
    have hflags : (locals net₀ x).flags = {} := hf
    have hout : (locals net₀ x).outbox = [] := ho
    refine ⟨hb, ?_, ?_, ?_⟩
    · rw [hflags]
    · rw [hout]
      exact nofun
    · rw [hflags]
      exact nofun
  | tail _ hstep ih => exact (ih.step hstep).1

end Steps

/-! ## Fair behaviors -/

section Behaviors
variable {env : Side → Env} {run : ℕ → Net} {x : Side}

theorem Reachable.of_reaches {net net' : Net} (h : Reachable env net)
    (hrun : ReflTransGen (Step env) net net') : Reachable env net' := by
  rcases h with ⟨net₀, h₀, hfirst⟩
  exact ⟨net₀, h₀, hfirst.trans hrun⟩

variable (h₀ : Reachable env (run 0)) (hrun : IsBehavior (Step env) run) (hfair : IsFair env run)
include h₀ hrun

theorem answered_at (n : ℕ) : Answered (locals (run n)) :=
  (h₀.of_reaches (hrun.reaches n.zero_le)).answered

include hfair

/-- A HELLO is answered at some moment. -/
theorem hello_answered {n : ℕ} {d : List Byte} (hd : d ∈ (run n x.peer).ext) (hello : SendsHello d) :
    ∃ m, ∃ d ∈ (run m x).ext, SendsHelloAck d := by
  rcases hfair n x d hd with ⟨m, hdel⟩
  have hm := answered_at h₀ hrun m
  rcases hm.deliver_hello hello hdel with ⟨hnext, key, size, ack, hlocals⟩
  refine ⟨m + 1, (hnext x).acked ?_⟩
  rw [hlocals, Function.update_self]
  exact Local.hello_sent (hm x).settled

/-- An acknowledgement completes its receiver and is answered at some moment. -/
theorem ack_completes {n : ℕ} {d : List Byte} (hd : d ∈ (run n x.peer).ext) (hack : SendsHelloAck d) :
    (∀ᶠ m in atTop, Completes x (run m)) ∧ ∃ m, ∃ d ∈ (run m x).ext, SendsHelloAck d := by
  rcases hfair n x d hd with ⟨m, hdel⟩
  rcases (answered_at h₀ hrun m).deliver_ack hack hdel with ⟨hnext, he, size, ack, hlocals⟩
  have hx : locals (run (m + 1)) x = (locals (run m) x).helloAck size ack := by
    rw [hlocals, Function.update_self]
  constructor
  · refine hrun.eventually (n := m + 1) (fun _ _ => Completes.step) ⟨hnext, ?_⟩
    rw [hx]
    simp [Local.helloAck, Local.settle, ackFlags]
  · refine ⟨m + 1, (hnext x).acked ?_⟩
    rw [hx]
    exact he.helloAck_sent

theorem both_complete_of_ack {n : ℕ} {d : List Byte} (hd : d ∈ (run n x.peer).ext)
    (hack : SendsHelloAck d) : ∀ᶠ m in atTop, ∀ y, Completes y (run m) := by
  obtain ⟨hx, m, d', hd', hack'⟩ := ack_completes h₀ hrun hfair hd hack
  have hpeer := (ack_completes h₀ hrun hfair (x := x.peer) (by rwa [Side.peer_peer]) hack').1
  filter_upwards [hx, hpeer] with k hk hk' y
  rcases x.eq_or_eq_peer y with rfl | rfl
  · exact hk
  · exact hk'

theorem eventually_complete (hstart : ∃ n x, (run n x).ext ≠ []) :
    ∀ᶠ n in atTop, ∀ x, Completes x (run n) := by
  rcases hstart with ⟨n, y, hy⟩
  rcases List.exists_mem_of_ne_nil _ hy with ⟨d, hd⟩
  rw [← y.peer_peer] at hd
  rcases (answered_at h₀ hrun n).sends hd with hello | hack
  · obtain ⟨m, d', hd', hack⟩ := hello_answered h₀ hrun hfair hd hello
    exact both_complete_of_ack h₀ hrun hfair (x := y) hd' hack
  · exact both_complete_of_ack h₀ hrun hfair hd hack

/-- If every message arrives at least once, at whatever time and in whatever order, then both
endpoints have completed from some moment on as soon as one of them has sent anything. -/
theorem handshake_completes (hstart : ∃ n x, (run n x).ext ≠ []) :
    ∀ᶠ n in atTop, ∀ x, (run n x).lib.flags.signalingComplete = true := by
  filter_upwards [eventually_complete h₀ hrun hfair hstart] with n hn x
  exact (hn x).2

end Behaviors

/-! ## Delivery in turn -/

section Turns
variable {env : Side → Env} {net : Net} {x : Side} {d : List Byte}

/-- The message with a number reaches an endpoint, if there is one. -/
def carry (env : Side → Env) (move : Side × ℕ) (net : Net) : Net :=
  match (net move.1.peer).ext[move.2]? with
  | none => net
  | some d =>
    match (processReceivedData (env move.1) channel (Mem.around (fun _ => 0) d) d.length).run
      (net move.1) with
    | .ok (_, w) => Function.update net move.1 w
    | .error _ => net

/-- All messages of both sides. -/
def allMoves (n : ℕ) : Side × ℕ := (if n % 2 = 0 then .left else .right, n / 2)

theorem allMoves_surjective : Function.Surjective allMoves := by
  rintro ⟨x, i⟩
  cases x with
  | left => exact ⟨2 * i, by simp [allMoves]⟩
  | right => exact ⟨2 * i + 1, by simp [allMoves, Nat.add_mod]; omega⟩

/-- An honest message does not fail to be processed. -/
theorem carry_delivers (h : Answered (locals net)) {i : ℕ} (hd : (net x.peer).ext[i]? = some d) :
    Delivers env x d net (carry env (x, i) net) := by
  have hmem : d ∈ (net x.peer).ext := List.mem_of_getElem? hd
  obtain ⟨r, w, hrun⟩ : ∃ r w, (processReceivedData (env x) channel (Mem.around (fun _ => 0) d)
      d.length).run (net x) = .ok (r, w) := by
    rcases h.sends hmem with ⟨key, psize, hk, hello⟩ | ⟨psize, hack⟩
    · obtain ⟨r, w, -, hrun, -⟩ := deliver_hello (env x) (fun _ => 0) hello hk (h x).inBand
      exact ⟨r, w, hrun⟩
    · obtain ⟨r, w, -, hrun, -⟩ := deliver_helloAck (env x) (fun _ => 0) hack (h x).inBand
      exact ⟨r, w, hrun⟩
  refine ⟨hmem, fun _ => 0, r, w, hrun, ?_⟩
  rw [carry]
  simp only [hd, hrun]

theorem carry_step (move : Side × ℕ) (h : Answered (locals net)) :
    Answered (locals (carry env move net)) ∧
      (OrderedStep env net (carry env move net) ∨ carry env move net = net) := by
  cases hd : (net move.1.peer).ext[move.2]? with
  | none =>
    have hsame : carry env move net = net := by
      rw [carry]
      simp only [hd]
    rw [hsame]
    exact ⟨h, .inr rfl⟩
  | some d =>
    have hdelivers : Delivers env move.1 d net (carry env move net) := carry_delivers h hd
    have hstep := hdelivers.step
    exact ⟨(h.step hstep.step).1, .inl hstep⟩

/-- Every state that can be reached goes on in a fair behavior, in which nobody starts any more. -/
theorem exists_fair (h : Reachable env net) :
    ∃ run, run 0 = net ∧ IsBehavior (OrderedStep env) run ∧ IsFair env run := by
  have hbehavior : IsBehavior (OrderedStep env) (inTurn (carry env) allMoves net) :=
    inTurn_isBehavior (p := fun t => Answered (locals t)) h.answered fun move t ht => carry_step move ht
  have hsteps := hbehavior.mono fun _ _ => OrderedStep.step
  refine ⟨_, rfl, hbehavior, fun n x d hd => ?_⟩
  rcases List.mem_iff_getElem.mp hd with ⟨i, hi, rfl⟩
  obtain ⟨m, hnm, hnext⟩ := @inTurn_recurs _ _ (carry env) _ net allMoves_surjective (x, i) n
  have hprefix := (answered_at h hsteps n).outbox_grows (hsteps.reaches hnm) x.peer
  refine ⟨m, ?_⟩
  rw [hnext]
  exact carry_delivers (answered_at h hsteps m) (List.prefix_iff_getElem?.mp hprefix i hi)

/-- Whatever has been lost, repeated or overtaken, as soon as anything has been sent there is a
way on in which both endpoints complete: no state that can be reached is stuck. -/
theorem handshake_never_stuck (h : Reachable env net) (hsent : ∃ x, (net x).ext ≠ []) :
    ∃ net', ReflTransGen (Step env) net net' ∧
      ∀ x, (net' x).lib.flags.signalingComplete = true := by
  rcases exists_fair h with ⟨run, rfl, hrun, hfair⟩
  have hsteps := hrun.mono fun _ _ => OrderedStep.step
  rcases hsent with ⟨x, hx⟩
  rcases (eventually_complete h hsteps hfair ⟨0, x, hx⟩).exists with ⟨n, hn⟩
  exact ⟨run n, hsteps.reaches n.zero_le, fun y => (hn y).2⟩

/-- The left side has started and nothing has arrived. -/
theorem exists_started (a b : ℕ) :
    ∃ net, ReflTransGen (OrderedStep twoKeys) (netOf (freshEndpoint a) (freshEndpoint b)) net ∧
      ∃ x, (net x).ext ≠ [] := by
  rcases fresh_initiate 1 a with ⟨_, w, d, hrun, -, hd, -⟩
  have hstep := @OrderedStep.initiate twoKeys (netOf (freshEndpoint a) (freshEndpoint b)) .left _ _
    (.inr (by simp [NoHello, netOf, freshEndpoint, Side.peer])) hrun
  exact ⟨_, .single hstep, .left, List.ne_nil_of_mem (by rwa [Function.update_self])⟩

theorem started_reachable {a b : ℕ} {net : Net}
    (h : ReflTransGen (OrderedStep twoKeys) (netOf (freshEndpoint a) (freshEndpoint b)) net) :
    Reachable twoKeys net :=
  ⟨_, netOf_fresh_initial a b, ReflTransGen.mono (fun _ _ => OrderedStep.step) _ _ h⟩

theorem handshake_never_stuck_start : ∃ net net', Reachable twoKeys net ∧
    ReflTransGen (Step twoKeys) net net' ∧ ∀ x, (net' x).lib.flags.signalingComplete = true := by
  rcases exists_started 1464 1464 with ⟨net, hnet, hsent⟩
  rcases handshake_never_stuck (started_reachable hnet) hsent with ⟨net', hrun, hc⟩
  exact ⟨net, net', started_reachable hnet, hrun, hc⟩

theorem handshake_completes_in_turn : ∃ run, Reachable twoKeys (run 0) ∧
    IsBehavior (Step twoKeys) run ∧ IsFair twoKeys run ∧
    ∀ᶠ n in atTop, ∀ x, (run n x).lib.flags.signalingComplete = true := by
  rcases exists_started 1464 1464 with ⟨net, hnet, x, hx⟩
  rcases exists_fair (started_reachable hnet) with ⟨run, rfl, hrun, hfair⟩
  have hsteps := hrun.mono fun _ _ => OrderedStep.step
  exact ⟨run, started_reachable hnet, hsteps, hfair,
    handshake_completes (started_reachable hnet) hsteps hfair ⟨0, x, hx⟩⟩

end Turns

/-! ## What they agree on -/

section Agreement
variable {env : Side → Env} {run : ℕ → Net} {size : Side → ℕ}

theorem Led.key_eq {a b : Local} {key : ℕ} (h : Led a b key)
    (hc : a.flags.signalingComplete = true) : a.key = b.key := by
  rw [h.leaderKey, h.followerKey (h.leaderComplete hc)]

theorem Orderly.key_eq {s : Side → Local} (h : Orderly s)
    (hc : ∀ x, (s x).flags.signalingComplete = true) : (s .left).key = (s .right).key := by
  rcases h with hu | ⟨x, key, hled⟩
  · have hf := hc .left
    rw [(hu .left).1] at hf
    cases hf
  · cases x with
    | left => exact hled.key_eq (hc .left)
    | right => exact (hled.key_eq (hc .right)).symm

/-- If moreover nobody starts after the first HELLO of its peer, a session comes about: both
endpoints have completed, hold the same key and the smaller packet size. -/
theorem session_established {net₀ : Net} (h₀ : Initial net₀)
    (hsize : ∀ x, (net₀ x).lib.session.maxpacketsize = size x) (hle : ∀ x, size x ≤ 99999)
    (hfirst : ReflTransGen (OrderedStep env) net₀ (run 0)) (hrun : IsBehavior (OrderedStep env) run)
    (hfair : IsFair env run) (hstart : ∃ n x, (run n x).ext ≠ []) :
    ∀ᶠ n in atTop, (∀ x, (run n x).lib.flags.signalingComplete = true) ∧
      (run n .left).lib.session.encryptionKey = (run n .right).lib.session.encryptionKey ∧
      ∀ x, (run n x).lib.session.maxpacketsize = (min (size .left) (size .right) : ℕ) := by
  have hsteps : IsBehavior (Step env) run := hrun.mono fun _ _ => OrderedStep.step
  have hfirst' : ReflTransGen (Step env) net₀ (run 0) :=
    ReflTransGen.mono (fun _ _ => OrderedStep.step) _ _ hfirst
  filter_upwards [eventually_complete ⟨net₀, h₀, hfirst'⟩ hsteps hfair hstart] with n hn
  have hcomplete : ∀ x, (run n x).lib.flags.signalingComplete = true := fun x => (hn x).2
  have hkeys := (orderly_run h₀ (hfirst.trans (hrun.reaches n.zero_le))).key_eq hcomplete
  have hsizes := negotiated_run h₀ hsize hle (hfirst'.trans (hsteps.reaches n.zero_le))
  exact ⟨hcomplete, hkeys, (hsizes .left).2 (hcomplete .left)⟩

end Agreement

/-- The packet sizes are 1464 and 1200. -/
theorem session_established_in_turn : ∃ run, IsBehavior (OrderedStep twoKeys) run ∧
    IsFair twoKeys run ∧ ∀ᶠ n in atTop, (∀ x, (run n x).lib.flags.signalingComplete = true) ∧
      (run n .left).lib.session.encryptionKey = (run n .right).lib.session.encryptionKey ∧
      ∀ x, (run n x).lib.session.maxpacketsize = 1200 := by
  rcases exists_started 1464 1200 with ⟨net, hnet, x, hx⟩
  rcases exists_fair (started_reachable hnet) with ⟨run, rfl, hrun, hfair⟩
  exact ⟨run, hrun, hfair, @session_established twoKeys run twoSizes _ (netOf_fresh_initial 1464 1200)
    (by intro x; cases x <;> rfl) (by intro x; cases x <;> decide) hnet hrun hfair ⟨0, x, hx⟩⟩

end Sqrkal.Handshake
