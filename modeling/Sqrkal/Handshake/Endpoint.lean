import Sqrkal.Handshake.Wire
import Sqrkal.Handshake.Options

/-! # One endpoint of the in-band handshake

An endpoint is the library with an outbox as its send functor. The handlers are
shown to compute a small transition function on the part of the state the
negotiation is about. A handler that reads the next message itself does so as
its last action, so its reads can be taken as steps of their own.
-/

namespace Sqrkal.Handshake
open Foundation Message Library Relation

abbrev Endpoint := World (List (List Byte))

/-- Sending appends to the outbox, with a given receive functor. -/
def channelWith (receive : World.Op (List (List Byte)) Unit) : Functors (List (List Byte)) where
  send d := do
    modify fun w => { w with ext := w.ext ++ [d] }
    return d.length
  receive := receive

/-- The channel on which a handler's own reads find nothing. -/
def channel : Functors (List (List Byte)) := channelWith (pure ())

def IsHello (key : ℕ) (psize : ℤ) (d : List Byte) : Prop := IsSignal 12 (helloOptions key psize) d

def IsHelloAck (psize : ℤ) (d : List Byte) : Prop := IsSignal 13 (helloAckOptions psize) d

/-- What the negotiation reads and writes. -/
structure Local where
  flags : Flags
  key : BitVec 32
  max : ℤ
  globalMax : ℤ
  inBand : Bool
  outbox : List (List Byte)

def localOf (w : Endpoint) : Local where
  flags := w.lib.flags
  key := w.lib.session.encryptionKey
  max := w.lib.session.maxpacketsize
  globalMax := w.lib.maxpacketsize
  inBand := w.lib.signalingBySrpp
  outbox := w.ext

/-! ## The transitions -/

/-- Whether `sendHelloAckMessage` sends. -/
def acks (f : Flags) : Bool :=
  (f.hellorecvd || f.hellosent) && !f.helloacksent && (!f.helloackrecvd || f.hellosent)

/-- The flags in which a received HELLOACK is answered. -/
def ackFlags (f : Flags) : Flags := { f with helloackrecvd := true, signalingComplete := true }

namespace Local

def acknowledge (ack : List Byte) (s : Local) : Local :=
  if acks s.flags then
    { s with flags := { s.flags with helloacksent := true }, outbox := s.outbox ++ [ack] }
  else s

def lower (size : ℤ) (s : Local) : Local :=
  if size < s.max then { s with max := size, globalMax := size } else s

/-- A HELLO arrives. -/
def hello (key : ℕ) (size : ℤ) (ack : List Byte) (s : Local) : Local :=
  let s := { s with key := BitVec.ofInt 32 key }.lower size
  { s with flags := { s.flags with hellorecvd := true } }.acknowledge ack

/-- What `receivedHelloAckMessage` leaves behind. -/
def settle (s : Local) : Local :=
  { s with flags := { s.flags with hellosent := false, helloackrecvd := false } }

/-- A HELLOACK arrives. -/
def helloAck (size : ℤ) (ack : List Byte) (s : Local) : Local :=
  let s := s.lower size
  ({ s with flags := ackFlags s.flags }.acknowledge ack).settle

/-- Whether `sendHelloMessage` refuses. -/
def busy (s : Local) : Bool :=
  s.flags.hellosent || s.flags.hellorecvd || s.flags.helloacksent || s.flags.helloackrecvd

/-- `signaling()` is called. -/
def initiate (key : ℕ) (hellos : List (List Byte)) (s : Local) : Local :=
  if s.busy then s
  else
    { s with
      key := BitVec.ofInt 32 key, flags := { s.flags with hellosent := true }
      outbox := s.outbox ++ hellos }

section Fields
variable (s : Local) (key : ℕ) (size : ℤ) (ack : List Byte)

@[simp] theorem lower_flags : (s.lower size).flags = s.flags := by
  unfold lower
  split_ifs <;> rfl

@[simp] theorem lower_key : (s.lower size).key = s.key := by
  unfold lower
  split_ifs <;> rfl

@[simp] theorem lower_inBand : (s.lower size).inBand = s.inBand := by
  unfold lower
  split_ifs <;> rfl

@[simp] theorem lower_outbox : (s.lower size).outbox = s.outbox := by
  unfold lower
  split_ifs <;> rfl

@[simp] theorem lower_max : (s.lower size).max = min s.max size := by
  unfold lower
  split_ifs with h
  · exact (min_eq_right h.le).symm
  · exact (min_eq_left (not_lt.mp h)).symm

@[simp] theorem acknowledge_flags :
    (s.acknowledge ack).flags =
      { s.flags with helloacksent := s.flags.helloacksent || acks s.flags } := by
  unfold acknowledge
  split_ifs with h
  · simp [h]
  · simp [h]

@[simp] theorem acknowledge_key : (s.acknowledge ack).key = s.key := by
  unfold acknowledge
  split_ifs <;> rfl

@[simp] theorem acknowledge_max : (s.acknowledge ack).max = s.max := by
  unfold acknowledge
  split_ifs <;> rfl

@[simp] theorem acknowledge_globalMax : (s.acknowledge ack).globalMax = s.globalMax := by
  unfold acknowledge
  split_ifs <;> rfl

@[simp] theorem acknowledge_inBand : (s.acknowledge ack).inBand = s.inBand := by
  unfold acknowledge
  split_ifs <;> rfl

@[simp] theorem acknowledge_outbox :
    (s.acknowledge ack).outbox = s.outbox ++ if acks s.flags then [ack] else [] := by
  unfold acknowledge
  split_ifs with h
  · rfl
  · simp

/-- The outbox after a HELLO: at most an acknowledgement more. -/
theorem hello_outbox : (s.hello key size ack).outbox =
    s.outbox ++ if acks { s.flags with hellorecvd := true } then [ack] else [] := by
  simp [hello]

theorem helloAck_outbox : (s.helloAck size ack).outbox =
    s.outbox ++ if acks (ackFlags s.flags) then [ack] else [] := by
  simp [helloAck, settle]

end Fields

end Local

/-! ## When a HELLOACK is sent -/

section Answering
variable {δ : Type} (env : Env) {w : World δ}

/-- Without a reason to acknowledge, nothing happens. -/
theorem sendHelloAckMessage_refused (F : Functors δ) (ha : acks w.lib.flags = false) :
    ∃ r l, (sendHelloAckMessage env F).run w = .ok (r, { w with lib := l }) ∧
      (l = w.lib ∨ l = w.lib.constructed) := by
  rw [sendHelloAckMessage, run_get_bind]
  by_cases hg : ((!w.lib.flags.hellorecvd && !w.lib.flags.hellosent) || w.lib.flags.helloacksent) = true
  · rw [if_pos hg]
    exact ⟨_, w.lib, rfl, .inl rfl⟩
  · have hs : ¬(!w.lib.flags.helloackrecvd || w.lib.flags.hellosent) = true := by
      revert ha hg
      simp only [acks]
      grind
    rcases signalingMessage_run env w.lib 13 (helloAckOptions w.lib.session.maxpacketsize) with
      ⟨msg, hm, -⟩
    rw [if_neg hg, run_get_bind, run_bind_ok (onLib_run hm), if_neg hs]
    exact ⟨_, w.lib.constructed, rfl, .inr rfl⟩

/-- With one, the acknowledgement is sent and noted before the handler reads on. -/
theorem sendHelloAckMessage_acking (ha : acks w.lib.flags = true) :
    ∃ d, IsSignal 13 (helloAckOptions w.lib.session.maxpacketsize) d ∧ ∀ F : Functors δ,
      (sendHelloAckMessage env F).run w = (do
        let _ ← F.send d
        setLib fun l => { l with packetToSend := 0 }
        setFlags fun f => { f with helloacksent := true }
        (if !(← get).lib.flags.signalingComplete then F.receive else pure ())
        return 0 : World.Op δ ℤ).run
          { w with lib := { w.lib.constructed.ticked with packetToSend := 1 } } := by
  have hg : ¬((!w.lib.flags.hellorecvd && !w.lib.flags.hellosent) || w.lib.flags.helloacksent) = true := by
    revert ha
    simp only [acks]
    grind
  have hs : (!w.lib.flags.helloackrecvd || w.lib.flags.hellosent) = true := by
    revert ha
    simp only [acks]
    grind
  rcases signalingMessage_run env w.lib 13 (helloAckOptions w.lib.session.maxpacketsize) with
    ⟨msg, hm, hc⟩
  rcases sendMessage_signal env { w with lib := w.lib.constructed } hc (by decide)
    (helloAckOptions_ne_nil _) with ⟨d, hd, hsend⟩
  refine ⟨d, hd, fun F => ?_⟩
  rw [sendHelloAckMessage, run_get_bind, if_neg hg, run_get_bind, run_bind_ok (onLib_run hm),
    if_pos hs, run_bind_congr (hsend F)]
  simp only [bind_assoc, pure_bind]

end Answering

/-! ## The handlers compute them -/

section Handlers
variable (env : Env) (w : Endpoint)

theorem sendMessage_channel {kind : BitVec 32} {options : List Byte} {msg : SRPPMessage}
    (h : Carries msg kind options) (hk : kind ≠ 0) (ho : options ≠ []) :
    ∃ d w', IsSignal kind options d ∧ (sendMessage env channel msg).run w = .ok ((d.length : ℤ), w') ∧
      localOf w' = { localOf w with outbox := w.ext ++ [d] } := by
  rcases sendMessage_signal env w h hk ho with ⟨d, hd, hr⟩
  exact ⟨d, { w with lib := { w.lib.ticked with packetToSend := 0 }, ext := w.ext ++ [d] }, hd,
    (hr channel).trans rfl, rfl⟩

theorem sendHelloAckMessage_local :
    ∃ status w' ack, (sendHelloAckMessage env channel).run w = .ok (status, w') ∧
      localOf w' = (localOf w).acknowledge ack ∧
      (acks w.lib.flags → IsHelloAck w.lib.session.maxpacketsize ack) := by
  unfold Local.acknowledge
  cases ha : acks w.lib.flags with
  | false =>
    rcases sendHelloAckMessage_refused env channel ha with ⟨status, l, hr, hl⟩
    refine ⟨status, { w with lib := l }, [], hr, ?_, by simp⟩
    rw [if_neg (by simpa [localOf] using ha)]
    rcases hl with rfl | rfl
    · rfl
    · rfl
  | true =>
    rcases sendHelloAckMessage_acking env ha with ⟨d, hd, hr⟩
    let v : Endpoint :=
      ⟨{ w.lib.constructed.ticked with
          packetToSend := 0, flags := { w.lib.flags with helloacksent := true } }, w.ext ++ [d], w.log⟩
    refine ⟨0, v, d, ?_, ?_, fun _ => hd⟩
    · -- nothing arrives on this channel, so it makes no difference whether it is read
      rw [hr channel]
      change ((if !v.lib.flags.signalingComplete then channel.receive else pure ()) >>= fun _ =>
        pure 0 : World.Op _ ℤ).run v = _
      split_ifs <;> rfl
    · rw [if_pos (by simpa [localOf] using ha)]
      rfl

theorem localOf_lower (size : ℤ) :
    localOf { w with lib := lowerMaxpacketsize size w.lib } = (localOf w).lower size := by
  unfold lowerMaxpacketsize Local.lower
  by_cases h : size < w.lib.session.maxpacketsize
  · rw [if_pos h, if_pos (show size < (localOf w).max from h)]
    rfl
  · rw [if_neg h, if_neg (show ¬size < (localOf w).max from h)]

variable {w} {d : List Byte} (junk : Mem)

/-- A delivered HELLO. -/
theorem deliver_hello {key : ℕ} {psize : ℤ} (h : IsHello key psize d) (hk : key < 65536)
    (hb : (localOf w).inBand = true) :
    ∃ r w' ack, (processReceivedData env channel (junk.around d) d.length).run w = .ok (r, w') ∧
      localOf w' = (localOf w).hello key (atoi (helloSizeText key psize)) ack ∧
      (acks { w.lib.flags with hellorecvd := true } → IsHelloAck (localOf w').max ack) := by
  obtain ⟨msg, tail, hsig, hpay, hrun⟩ := processReceivedData_signal env channel h (by decide)
    (helloOptions_no_nul hk psize) junk hb
  -- the state in which the acknowledgement is considered
  let size := atoi (helloSizeText key psize)
  let u : Endpoint := { w with lib := lowerMaxpacketsize size (setKey key w.lib.constructed) }
  let v : Endpoint := { u with lib := { u.lib with flags := { u.lib.flags with hellorecvd := true } } }
  have hu : localOf u = { localOf w with key := BitVec.ofInt 32 key }.lower size :=
    localOf_lower { w with lib := setKey key w.lib.constructed } _
  have huf : u.lib.flags = w.lib.flags := by
    have := congrArg Local.flags hu
    rwa [Local.lower_flags] at this
  rcases sendHelloAckMessage_local env v with ⟨status, w', ack, hr, hl, ha⟩
  refine ⟨none, w', ack, ?_, ?_, ?_⟩
  · rw [hrun, dispatch]
    simp only [hsig, hpay, if_true, hello_key hk, hello_size_field hk]
    rw [bind_assoc, run_bind_ok (setLib_run _ _), bind_assoc, run_bind_ok (setLib_run _ _),
      receivedHelloMessage, bind_assoc, bind_assoc, run_bind_ok (setFlags_run _ _)]
    rw [run_bind_ok hr]
    rfl
  · rw [hl, Local.hello, ← hu]
    rfl
  · intro hacks
    have hmax : (localOf w').max = v.lib.session.maxpacketsize := by
      rw [hl, Local.acknowledge_max]
      rfl
    rw [hmax]
    apply ha
    change acks { u.lib.flags with hellorecvd := true }
    rwa [huf]

theorem receivedHelloAckMessage_local (u : Endpoint) :
    ∃ status w' ack, (receivedHelloAckMessage env channel).run u = .ok (status, w') ∧
      localOf w' =
        ({ localOf u with flags := ackFlags u.lib.flags }.acknowledge ack).settle ∧
      (acks (ackFlags u.lib.flags) → IsHelloAck u.lib.session.maxpacketsize ack) := by
  let v : Endpoint :=
    { u with lib := { u.lib with flags := ackFlags u.lib.flags }, log := .completed :: u.log }
  -- when an acknowledgement has gone out before, nothing is sent and nothing would be
  obtain ⟨status, w', ack, hr, hl, ha⟩ : ∃ status w' ack,
      (if u.lib.flags.helloacksent then pure 0 else sendHelloAckMessage env channel).run v =
        .ok (status, w') ∧ localOf w' = (localOf v).acknowledge ack ∧
      (acks v.lib.flags → IsHelloAck v.lib.session.maxpacketsize ack) := by
    by_cases hs : u.lib.flags.helloacksent = true
    · have hn : acks v.lib.flags = false := by
        simp [acks, v, ackFlags, hs]
      refine ⟨0, v, [], by rw [if_pos hs]; rfl, ?_, by simp [hn]⟩
      rw [Local.acknowledge, if_neg (by simpa [localOf] using hn)]
    · rw [if_neg hs]
      exact sendHelloAckMessage_local env v
  refine ⟨status, { w' with lib := { w'.lib with flags :=
    { w'.lib.flags with hellosent := false, helloackrecvd := false } } }, ack, ?_, ?_, ha⟩
  · change ((if u.lib.flags.helloacksent then pure 0 else sendHelloAckMessage env channel) >>=
      fun i => setFlags (fun f => { f with hellosent := false, helloackrecvd := false }) >>=
        fun _ => pure i).run v = _
    rw [run_bind_ok hr]
    rfl
  · change (localOf w').settle = _
    rw [hl]
    rfl

/-- A delivered HELLOACK. -/
theorem deliver_helloAck {psize : ℤ} (h : IsHelloAck psize d) (hb : (localOf w).inBand = true) :
    ∃ r w' ack, (processReceivedData env channel (junk.around d) d.length).run w = .ok (r, w') ∧
      localOf w' = (localOf w).helloAck (atoi ((decimal psize).take 5 ++ text "YES")) ack ∧
      (acks (ackFlags w.lib.flags) → IsHelloAck (localOf w').max ack) := by
  obtain ⟨msg, tail, hsig, hpay, hrun⟩ := processReceivedData_signal env channel h (by decide)
    (helloAckOptions_no_nul psize) junk hb
  let size := atoi ((decimal psize).take 5 ++ text "YES")
  let u : Endpoint := { w with lib := lowerMaxpacketsize size w.lib.constructed }
  have hu : localOf u = (localOf w).lower size :=
    localOf_lower { w with lib := w.lib.constructed } _
  have huf : u.lib.flags = w.lib.flags := by
    have := congrArg Local.flags hu
    rwa [Local.lower_flags] at this
  rcases receivedHelloAckMessage_local env u with ⟨status, w', ack, hr, hl, ha⟩
  refine ⟨none, w', ack, ?_, ?_, ?_⟩
  · rw [hrun, dispatch]
    simp only [hsig, hpay, ack_size_field]
    rw [if_neg (by decide), if_pos trivial, bind_assoc, run_bind_ok (setLib_run _ _), bind_assoc,
      run_bind_ok hr]
    rfl
  · rw [hl, Local.helloAck, ← hu]
    rfl
  · intro hacks
    have hmax : (localOf w').max = u.lib.session.maxpacketsize := by
      rw [hl]
      exact Local.acknowledge_max _ _
    rw [hmax]
    exact ha (by rwa [huf])

/-- The five HELLOs of `sendHelloMessage`. -/
theorem sendHellos_local (n : ℕ) {key : ℕ} (psize : ℤ) (w : Endpoint)
    (hack : w.lib.flags.helloackrecvd = false) :
    ∃ w' hellos, (sendHellos env channel (helloOptions key psize) n).run w = .ok (true, w') ∧
      localOf w' = { localOf w with
        flags := { w.lib.flags with hellosent := w.lib.flags.hellosent || decide (0 < n) }
        outbox := w.ext ++ hellos } ∧
      hellos.length = n ∧ ∀ d ∈ hellos, IsHello key psize d := by
  induction n generalizing w with
  | zero => exact ⟨w, [], rfl, by simp [localOf], rfl, by simp⟩
  | succ n ih =>
    let u : Endpoint := { w with lib := { w.lib with flags := { w.lib.flags with hellosent := true } } }
    obtain ⟨msg, hm, hc⟩ := signalingMessage_run env u.lib 12 (helloOptions key psize)
    obtain ⟨d, v, hd, hr, hl⟩ := sendMessage_channel env { u with lib := u.lib.constructed } hc
      (by decide) (helloOptions_ne_nil _ _)
    have hvf : v.lib.flags = { w.lib.flags with hellosent := true } := congrArg Local.flags hl
    rcases ih v (by rw [hvf]; exact hack) with ⟨w', hellos, hr', hl', hlen, hall⟩
    refine ⟨w', d :: hellos, ?_, ?_, by simp [hlen], ?_⟩
    · rw [sendHellos, run_get_bind, if_neg (by simp [hack]), run_bind_ok (setFlags_run _ _),
        run_bind_ok (onLib_run hm), run_bind_ok hr, hr']
    · simp only [localOf, Local.mk.injEq] at hl hl' ⊢
      simp [hl', hl, u, Lib.constructed]
    · intro d' hd'
      obtain rfl | hd' := List.mem_cons.mp hd'
      · exact hd
      · exact hall d' hd'

theorem waitFor_channel (done : Flags → Bool) (n : ℕ) (w : Endpoint) :
    ∃ status, (waitFor channel done n).run w = .ok (status, w) := by
  induction n generalizing w with
  | zero =>
    rw [waitFor, run_get_bind]
    split_ifs
    · exact ⟨0, rfl⟩
    · exact ⟨-1, rfl⟩
  | succ n ih =>
    rw [waitFor, run_get_bind]
    split_ifs
    · exact ⟨0, rfl⟩
    · exact ih w

/-- The key drawn by a `signaling()` call. -/
def drawnKey (env : Env) (w : Endpoint) : ℕ := env.rand (w.lib.tick + 1) % 65535

theorem srppRand_key (n : ℕ) : srppRand 0 65535 n = ((n % 65535 : ℕ) : ℤ) := by
  rw [srppRand, if_neg (by decide), Int.tmod_eq_emod_of_nonneg (Int.natCast_nonneg n)]
  push_cast
  omega

/-- The part of `sendHelloMessage` after the five HELLOs. -/
def awaitAck (F : Functors (List (List Byte))) : World.Op (List (List Byte)) ℤ := do
  if (← get).lib.srppEnabled = 0 then return -10
  else
    onLib (unusedMessage env)
    F.receive
    waitFor F Flags.signalingComplete 120000

/-- On a channel that delivers nothing the wait changes nothing. -/
theorem awaitAck_local (w : Endpoint) :
    ∃ status w', (awaitAck env channel).run w = .ok (status, w') ∧ localOf w' = localOf w := by
  rw [awaitAck, run_get_bind]
  by_cases he : w.lib.srppEnabled = 0
  · rw [if_pos he]
    exact ⟨-10, w, rfl, rfl⟩
  · obtain ⟨status, hwait⟩ := waitFor_channel Flags.signalingComplete 120000
      { w with lib := w.lib.constructed }
    rw [if_neg he, run_bind_ok (onLib_run (unusedMessage_run w.lib env))]
    exact ⟨status, { w with lib := w.lib.constructed }, hwait, rfl⟩

/-- A call of `signaling()`. -/
theorem signaling_local (w : Endpoint) :
    ∃ status w' hellos, (signaling env channel).run w = .ok (status, w') ∧
      localOf w' = (localOf w).initiate (drawnKey env w) hellos ∧
      ((localOf w).busy = false → hellos ≠ [] ∧
        ∀ d ∈ hellos, IsHello (drawnKey env w) w.lib.session.maxpacketsize d) := by
  have hdelay : (signaling env channel).run w =
      (sendHelloMessage env channel).run { w with lib := w.lib.ticked } := rfl
  rw [hdelay]
  unfold Local.initiate
  cases hb : (localOf w).busy with
  | true =>
    have hc : (w.lib.ticked.flags.hellosent || w.lib.ticked.flags.hellorecvd ||
        w.lib.ticked.flags.helloacksent || w.lib.ticked.flags.helloackrecvd) = true := hb
    refine ⟨-1, { w with lib := w.lib.ticked }, [], ?_, by rw [if_pos rfl]; rfl, by simp⟩
    rw [sendHelloMessage, run_get_bind, if_pos hc]
    rfl
  | false =>
    have hc : (w.lib.ticked.flags.hellosent || w.lib.ticked.flags.hellorecvd ||
        w.lib.ticked.flags.helloacksent || w.lib.ticked.flags.helloackrecvd) = false := hb
    have hack : w.lib.flags.helloackrecvd = false := by
      simp only [Bool.or_eq_false_iff] at hc
      exact hc.2
    let u : Endpoint := { w with lib := (setKey (drawnKey env w) w.lib.ticked.ticked).constructed }
    obtain ⟨v, hellos, hr, hl, hlen, hall⟩ := @sendHellos_local env 5 (drawnKey env w)
      w.lib.session.maxpacketsize u hack
    rcases awaitAck_local env v with ⟨status, w', hwait, hlocal⟩
    have hkey : (rand env 0 65535).run w.lib.ticked = .ok ((drawnKey env w : ℤ), w.lib.ticked.ticked) := by
      rw [rand_run, srppRand_key]
      rfl
    refine ⟨status, w', hellos, ?_, ?_, fun _ => ⟨?_, hall⟩⟩
    · rw [sendHelloMessage, run_get_bind, if_neg (by rw [hc]; decide), run_bind_ok (onLib_run hkey)]
      change (sendHellos env channel (helloOptions (drawnKey env w) w.lib.session.maxpacketsize) 5 >>=
        fun sent => if sent then awaitAck env channel else pure 0).run u = _
      rw [run_bind_ok hr, if_pos rfl, hwait]
    · rw [hlocal, hl, if_neg (by decide)]
      simp [localOf, u, setKey, Lib.constructed, Lib.ticked]
    · rintro rfl
      simp at hlen

end Handlers

end Sqrkal.Handshake
