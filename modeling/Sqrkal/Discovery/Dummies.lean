import Sqrkal.Discovery.Run
import Sqrkal.Library.Interruption
import Sqrkal.Library.Recognition

/-! # The dummies of the burst mode at the other end

Each dummy of `default_cbp_pad_algo` and `default_ebp_pad_algo` is followed from the
cache entry it is drawn from, through the header rewrite of `send_rtp_message`, to a
receiver with the same key.
-/

namespace Sqrkal.Discovery
open Foundation Mem Message Library

/-! ## The datagram around a message -/

/-- What the receiver of a datagram has behind its IP and UDP headers. -/
def received (rest : Mem) (bytes : List Byte) : Mem := (rest.around bytes).shift 28

/-- The stored header makes a message with a signalling word a signalling message. -/
def StoredSignals (g : Globals) : Prop :=
  g.rtpHdset = 2 ∧ (RTPHeader.load g.rtpHeader 28).version ≠ 0 ∧
    (RTPHeader.load g.rtpHeader 28).pt = 124

instance (g : Globals) : Decidable (StoredSignals g) := inferInstanceAs (Decidable (_ ∧ _ ∧ _))

section Datagram
variable (g : Globals) (junk : Mem) (d : List Byte)

/-- The bytes `send_rtp_message` gives to the socket. -/
def datagramBytes : List Byte :=
  (formChecksums (rewriteHeader g d (wrapMessage g junk d))).read 0 (d.length + 28)

/-- Checksums touch the header of the datagram and, if it has options, some bytes of the
message's header. -/
theorem formChecksums_agreesOn (m : Mem) {hi : ℤ} : AgreesOn (formChecksums m) m 68 hi := by
  have hihl : ihl m < 16 := (m 0 |>.extractLsb' 0 4).isLt
  unfold formChecksums transportAt
  exact (store16_agreesOn _ _ _ (by omega)).trans ((store16_agreesOn _ _ _ (by omega)).trans
    (store16_agreesOn _ _ _ (by omega)))

/-- The second byte of the message is never a checksum byte. -/
theorem formChecksums_apply (m : Mem) : formChecksums m 29 = m 29 := by
  unfold formChecksums transportAt
  have hat : ∀ (m : Mem) (a : ℤ) (x : BitVec 16), (29 < a ∨ a + 2 ≤ 29) → m.store16 a x 29 = m 29 := by
    intro m a x h
    have hag : AgreesOn (m.store16 a x) m 29 30 := store16_agreesOn m a x (by omega)
    exact hag 29 le_rfl (by decide)
  rw [hat _ _ _ (by omega), hat _ _ _ (by omega), hat _ _ _ (by omega)]

theorem rewriteHeader_agreesOn (m : Mem) {hi : ℤ} : AgreesOn (rewriteHeader g d m) m 40 hi := by
  have hlen : ((g.rtpHeader.read 28 12).length : ℤ) = 12 := by rw [read_length]; rfl
  unfold rewriteHeader
  dsimp only
  split_ifs
  · exact (write_agreesOn (Or.inr (by simp))).trans (write_agreesOn (Or.inr (by omega)))
  · exact write_agreesOn (Or.inr (by omega))
  · exact AgreesOn.refl

/-- From its fortieth byte on, a message arrives as it was sent. -/
theorem received_agreesOn (rest mem : Mem) :
    AgreesOn (received rest (datagramBytes g junk d)) (mem.write 0 d) 40 d.length := by
  have hcopy : AgreesOn (rest.around (datagramBytes g junk d))
      (formChecksums (rewriteHeader g d (wrapMessage g junk d))) (40 + 28) (d.length + 28) :=
    (write_read_agreesOn _ _ _).mono (by omega) (by push_cast; omega)
  have hpoint := (hcopy.trans ((formChecksums_agreesOn _).trans
    ((rewriteHeader_agreesOn g d (wrapMessage g junk d)).mono (by omega) le_rfl))).shift
  apply hpoint.trans
  intro a ha hb
  obtain ⟨i, rfl⟩ := Int.eq_ofNat_of_zero_le (show (0 : ℤ) ≤ a by omega)
  have hi : i < d.length := by omega
  have hleft := write_apply_inside mem 0 d i hi
  rw [zero_add] at hleft
  rw [hleft, shift, add_comm]
  exact write_apply_inside _ 28 d i hi

/-- The payload type a message arrives with, if it was sent with another one than 124. -/
theorem received_payloadType (rest : Mem) (hd : 2 ≤ d.length)
    (hpt : (d.getD 1 0).extractLsb' 0 7 ≠ 124) :
    payloadType (received rest (datagramBytes g junk d)) ≠ 124 ↔ ¬StoredSignals g := by
  have harrives : received rest (datagramBytes g junk d) 1 =
      rewriteHeader g d (wrapMessage g junk d) 29 := by
    rw [← formChecksums_apply (rewriteHeader g d (wrapMessage g junk d))]
    have hcopy := write_read_agreesOn rest
      (formChecksums (rewriteHeader g d (wrapMessage g junk d))) (d.length + 28)
    exact hcopy 29 (by decide) (by push_cast; omega)
  have hbyte : wrapMessage g junk d 29 = d.getD 1 0 := by
    have hone : 1 < d.length := by omega
    rw [show d.getD 1 0 = d[1] by simp [hone]]
    exact write_apply_inside _ 28 d 1 hone
  unfold payloadType
  rw [harrives, rewriteHeader]
  by_cases h : g.rtpHdset = 2 ∧ (RTPHeader.load g.rtpHeader 28).version ≠ 0
  · have hkept : d.getD 1 0 ≠ 0x7c := fun he => hpt (by rw [he]; rfl)
    have hstored : (wrapMessage g junk d).write 28 (g.rtpHeader.read 28 12) 29 = g.rtpHeader 29 := by
      have hin := write_apply_inside (wrapMessage g junk d) 28 (g.rtpHeader.read 28 12) 1 (by simp)
      rw [read_getElem] at hin
      exact hin
    rw [if_pos h, if_neg hkept, hstored]
    exact ⟨fun hne hs => hne hs.2.2, fun hs he => hs ⟨h.1, h.2, he⟩⟩
  · rw [if_neg h, hbyte]
    exact ⟨fun _ hs => h ⟨hs.1, hs.2.1⟩, fun _ => hpt⟩

end Datagram

/-- A dummy in the datagram of `send_rtp_message`, at a receiver with the same key. -/
theorem recognises_datagram_iff {e : SRPPMessage} (he : IsEntry true e) {key : BitVec 32}
    (hk : key.toNat < 2 ^ 31) (draw : ℕ) {mem wire : Mem}
    (hi : IsWire (encryptSrpp e key draw) key mem wire) {size : ℕ}
    (hsize : srppSize (encryptSrpp e key draw) = size) (hlarge : 2 ≤ size) (g : Globals)
    (junk : Mem) (obj : SRPPMessage) (rest : Mem) :
    Recognises key obj (received rest (datagramBytes g junk (wire.read 0 size)))
        ((datagramBytes g junk (wire.read 0 size)).length - 28) ↔
      e.srppHeader.srppSignalling = 0 ∨ (key.toNat ≤ 1500 ∧ ¬StoredSignals g) := by
  have hlen : (wire.read 0 size).length = size := read_length _ _ _
  have hbytes : ((datagramBytes g junk (wire.read 0 size)).length : ℤ) - 28 =
      srppSize (encryptSrpp e key draw) := by
    rw [datagramBytes, read_length, hlen, hsize]
    push_cast
    omega
  have hagree := (received_agreesOn g junk (wire.read 0 size) rest (fun _ => 0)).trans
    ((write_read_agreesOn _ wire size).mono (by omega) (by omega))
  rw [hlen, ← hsize] at hagree
  rw [hbytes]
  apply (recognises_dummy_iff he draw hk hi hagree obj).trans
  by_cases hs : e.srppHeader.srppSignalling = 0
  · exact ⟨fun _ => Or.inl hs, fun _ => Or.inl hs⟩
  · refine or_congr_right (and_congr_right fun _ => received_payloadType g junk _ rest (by omega) ?_)
    -- the sender's own payload type is not the one of signalling
    have hone : 1 < (wire.read 0 size).length := by omega
    have hbyte : (wire.read 0 size).getD 1 0 = wire 1 := by
      rw [List.getD_eq_getElem?_getD, List.getElem?_eq_getElem hone, read_getElem]
      rfl
    have hpt : (wire 1).extractLsb' 0 7 = e.srppHeader.pt := by
      rcases hi.header with ⟨csrc, hheader⟩
      exact congrArg (fun h : SRPPHeader => h.pt) hheader
    rw [hbyte, hpt]
    exact he.pt hs

/-! ## Sending a dummy -/

section Sending
variable (env : Env) (host : Host) (n : ℕ)

/-- What the send functor has done when it returns. -/
theorem sendRtpMessage_ok {d : List Byte} (hd : d ≠ []) {w w' : Process} {status : ℤ}
    (h : (sendRtpMessage env d).run w = .ok (status, w')) : ∃ addr port,
    w'.log = .rtpMessage ⟨addr, port, datagramBytes w.ext (env.junk w.lib.tick) d⟩ :: w.log ∧
      w'.lib = w.lib.ticked ∧
      w'.ext = { advanceHeader w.lib.lastSequenceNo w.ext with outAddr := ⟨addr, port⟩ } := by
  have htick : (onLib nextTick : Op ℕ).run w = .ok (w.lib.tick, { w with lib := w.lib.ticked }) := rfl
  rw [sendRtpMessage, if_neg hd, run_bind_ok htick, run_get_bind] at h
  dsimp only at h
  by_cases hset : w.ext.rtpHdset = 0
  · -- there is no header yet, and the process ends
    rw [if_pos hset] at h
    cases h
  · rw [if_neg hset] at h
    cases h
    exact ⟨_, _, rfl, rfl, rfl⟩

/-- A datagram of `send_rtp_message`. -/
def isRtpMessage : Event → Bool
  | .rtpMessage _ => true
  | _ => false

theorem sendRtpMessage_lib {d : List Byte} {w w' : Process} {status : ℤ}
    (h : (sendRtpMessage env d).run w = .ok (status, w')) :
    w'.lib.padding = w.lib.padding ∧ w'.lib.timer = w.lib.timer := by
  by_cases hd : d = []
  · rw [sendRtpMessage, if_pos hd] at h
    cases h
    exact ⟨rfl, rfl⟩
  · obtain ⟨addr, port, -, hlib, -⟩ := sendRtpMessage_ok env hd h
    rw [hlib]
    exact ⟨rfl, rfl⟩

/-- So every message of the library is one more of these datagrams in the log, and nothing that
the handler of the alarm signal depends on has changed. -/
theorem functors_countsSends :
    CountsSends (fun w : Process => w.log.countP isRtpMessage) (functors env host n) := by
  have hsend := functors_send env host n
  constructor
  · exact fun w l => rfl
  · intro d hd w status w' h
    rw [hsend] at h
    obtain ⟨addr, port, hlog, -⟩ := sendRtpMessage_ok env hd h
    rw [hlog]
    exact List.countP_cons_of_pos rfl
  · intro d w status w' h
    rw [hsend] at h
    exact (sendRtpMessage_lib env h).1
  · intro d w status w' h
    rw [hsend] at h
    exact .single (sendRtpMessage_lib env h).2

/-- A dummy that is sent, and whether a receiver with the same key recognises it. -/
theorem sendMessage_dummy {e : SRPPMessage} (he : IsEntry true e) {key : BitVec 32}
    (hk : key.toNat < 2 ^ 31) (draw : ℕ) {w w' : Process} {status : ℤ}
    (hkey : w.lib.session.encryptionKey = key)
    (h : (sendMessage env (functors env host n) (encryptSrpp e key draw)).run w = .ok (status, w')) :
    ∃ d, w'.log = .rtpMessage d :: w.log ∧ w'.lib = { w.lib.ticked.ticked with packetToSend := 0 } ∧
      ∀ (obj : SRPPMessage) (rest : Mem),
        Recognises key obj (received rest d.bytes) (d.bytes.length - 28) ↔
          e.srppHeader.srppSignalling = 0 ∨ (key.toNat ≤ 1500 ∧ ¬StoredSignals w.ext) := by
  let msg := encryptSrpp e key draw
  obtain ⟨wire, hwire, hi⟩ := srppToNetwork_isWire msg (env.junk w.lib.tick) (env.filler w.lib.tick)
    key he.cc
  have hpayload : msg.encryptedPart.originalPayload ≠ [] := fun hnil =>
    he.payload (List.map_eq_nil_iff.mp hnil)
  have hsender : (if isSignalingMessage msg = 1 then 0 else key) = key :=
    if_neg (signalingClass_ne_one.mpr (or_iff_not_imp_left.mpr he.pt))
  obtain ⟨size, hsize, hlarge⟩ : ∃ size : ℕ, srppSize msg = size ∧ 2 ≤ size := by
    have hge := trailerAt_ge msg key
    have hend : srppSize msg = trailerAt msg key + 12 := encryptSrpp_size he key draw hk
    exact ⟨(srppSize msg).toNat, by omega, by omega⟩
  have hlen : (wire.read 0 size).length = size := read_length _ _ _
  rw [sendMessage_run env _ hpayload (by rw [hkey, hsender, hwire]), functors_send, hsize,
    Int.toNat_natCast] at h
  rcases run_bind_eq_ok h with ⟨_, u, hsend, h⟩
  cases h
  obtain ⟨addr, port, hlog, hlib, -⟩ := sendRtpMessage_ok env
    (List.ne_nil_of_length_pos (by omega)) hsend
  refine ⟨_, hlog, ?_, fun obj rest => ?_⟩
  · change ({ u.lib with packetToSend := 0 } : Lib) = _
    rw [hlib]
    rfl
  · exact recognises_datagram_iff he hk draw hi hsize hlarge w.ext _ obj rest

end Sending

/-! ## The two algorithms -/

/-- The entry drawn next is an acceptable dummy: it has no signalling word, or the key is
no larger than a pad count may be and the stored header is not one of signalling. -/
def Acceptable (env : Env) (w : Process) : Prop :=
  (w.lib.padding.dummyCache (drawnIndex env w.lib)).srppHeader.srppSignalling = 0 ∨
    (w.lib.session.encryptionKey.toNat ≤ 1500 ∧ ¬StoredSignals w.ext)

instance (env : Env) (w : Process) : Decidable (Acceptable env w) :=
  inferInstanceAs (Decidable (_ ∨ _))

/-- The algorithms that send dummies. -/
inductive PadAlgo where
  | cbp
  | ebp

def PadAlgo.run (env : Env) (F : Functors Globals) : PadAlgo → Op ℤ
  | .cbp => defaultCbpPadAlgo env F
  | .ebp => defaultEbpPadAlgo env F

/-- The states in which a burst draws the dummies it sends, the latest first. -/
def burstDraws (env : Env) (F : Functors Globals) : ℕ → Process → List Process
  | 0, _ => []
  | n + 1, w =>
    match (burstRound env F).run w with
    | .ok (_, w') => burstDraws env F n w' ++ if w.lib.packetToSend = 0 then [w] else []
    | .error _ => []

/-- The states in which an algorithm draws the dummies it sends. -/
def PadAlgo.draws (env : Env) (F : Functors Globals) (w : Process) : PadAlgo → List Process
  | .cbp =>
    if w.lib.padding.isBurstPadding then
      burstDraws env F (srppRand 0 3 (env.rand w.lib.tick)).toNat { w with lib := w.lib.ticked }
    else []
  | .ebp => if w.lib.padding.isBurstPadding then [w] else []

/-- A dummy is recognised just when the state it was drawn in says so. -/
def Judged (env : Env) (key : BitVec 32) (obj : SRPPMessage) (rest : Mem) (d : Datagram)
    (w : Process) : Prop :=
  Recognises key obj (received rest d.bytes) (d.bytes.length - 28) ↔ Acceptable env w

/-- A state in which dummies are drawn, with a session key. -/
structure InBurst (key : BitVec 32) (w : Process) : Prop where
  drawable : Drawable w.lib.padding
  burst : w.lib.padding.isBurstPadding = true
  key : w.lib.session.encryptionKey = key

section Burst
variable (env : Env) (host : Host) (n : ℕ) {key : BitVec 32} (obj : SRPPMessage) (rest : Mem)
variable {w w' : Process}

/-- The dummies that have been sent from one state to another, with their draws. -/
structure Sends (key : BitVec 32) (draws : List Process) (w w' : Process) : Prop where
  dummies : ∃ ds : List Datagram, w'.log = ds.map .rtpMessage ++ w.log ∧
    List.Forall₂ (Judged env key obj rest) ds draws
  inBurst : InBurst key w'

theorem InBurst.drawn (h : InBurst key w) : IsEntry true (drawnDummy env w.lib) := by
  have hentry := h.drawable.entry (drawnIndex env w.lib) (indexOf_lt _)
  rw [h.burst] at hentry
  refine hentry.asDummy ?_ _
  rw [h.drawable.limit]
  have := (burstSize_bounds (env.rand w.lib.tick)).1
  omega

/-- The state after a draw. -/
def afterDraw (w : Process) : Process :=
  { w with lib := { w.lib with
      padding := w.lib.padding.setEntry (drawnIndex env w.lib) (drawnDummy env w.lib)
      lastSequenceNo := w.lib.lastSequenceNo + 1, tick := w.lib.tick + 3 } }

theorem InBurst.afterDraw (h : InBurst key w) : InBurst key (afterDraw env w) := by
  refine ⟨h.drawable.setEntry _ ?_, h.burst, h.key⟩
  rw [h.burst]
  exact h.drawn env

theorem InBurst.drawDummy_run (h : InBurst key w) : (onLib (drawDummy env) : Op SRPPMessage).run w =
    .ok (encryptSrpp (drawnDummy env w.lib) key (env.rand (w.lib.tick + 2)), Discovery.afterDraw env w) := by
  have hrun := onLib_run (w := w) (Library.drawDummy_run env w.lib)
  rw [h.key] at hrun
  exact hrun

/-- A dummy that is drawn and sent. -/
theorem InBurst.send (h : InBurst key w) (hk : key.toNat < 2 ^ 31) {draw : ℕ} {status : ℤ}
    (hrun : (sendMessage env (functors env host n) (encryptSrpp (drawnDummy env w.lib) key draw)).run
      (Discovery.afterDraw env w) = .ok (status, w')) : Sends env obj rest key [w] w w' := by
  have hafter := h.afterDraw env
  obtain ⟨d, hlog, hlib, hiff⟩ := sendMessage_dummy env host n (h.drawn env) hk draw hafter.key hrun
  refine ⟨⟨[d], hlog, .cons ?_ .nil⟩, ?_⟩
  · apply (hiff obj rest).trans
    unfold Acceptable
    rw [h.key]
    exact Iff.rfl
  · exact ⟨by rw [hlib]; exact hafter.drawable, by rw [hlib]; exact hafter.burst,
      by rw [hlib]; exact hafter.key⟩

/-- Resetting the timers changes nothing that matters here. -/
theorem Sends.reset {draws : List Process} {u : Process} (h : Sends env obj rest key draws w u)
    (hrun : (do onLib resetPacketTimer; onLib resetSilenceTimer : Op Unit).run u = .ok ((), w')) :
    Sends env obj rest key draws w w' := by
  cases hrun
  exact ⟨h.dummies, h.inBurst.drawable, h.inBurst.burst, h.inBurst.key⟩

theorem InBurst.round (h : InBurst key w) (hk : key.toNat < 2 ^ 31)
    (hrun : (burstRound env (functors env host n)).run w = .ok ((), w')) :
    Sends env obj rest key (if w.lib.packetToSend = 0 then [w] else []) w w' := by
  rw [burstRound, run_bind_ok (h.drawDummy_run env), run_get_bind] at hrun
  by_cases hp : w.lib.packetToSend = 0
  · rw [if_pos hp]
    rw [if_pos (show (Discovery.afterDraw env w).lib.packetToSend = 0 from hp), bind_assoc] at hrun
    rcases run_bind_eq_ok hrun with ⟨_, u, hsend, hrun⟩
    exact (h.send env host n obj rest hk hsend).reset env obj rest hrun
  · rw [if_neg hp]
    rw [if_neg (show ¬(Discovery.afterDraw env w).lib.packetToSend = 0 from hp),
      run_bind_ok (setLib_run _ _)] at hrun
    have hafter := h.afterDraw env
    have hskip : Sends env obj rest key [] w { Discovery.afterDraw env w with
        lib := { (Discovery.afterDraw env w).lib with packetToSend := 0 } } :=
      ⟨⟨[], rfl, .nil⟩, hafter.drawable, hafter.burst, hafter.key⟩
    exact hskip.reset env obj rest hrun

theorem Sends.trans {draws draws' : List Process} {u : Process}
    (h : Sends env obj rest key draws w u) (h' : Sends env obj rest key draws' u w') :
    Sends env obj rest key (draws' ++ draws) w w' := by
  rcases h.dummies with ⟨ds, hlog, hall⟩
  rcases h'.dummies with ⟨ds', hlog', hall'⟩
  refine ⟨⟨ds' ++ ds, ?_, List.rel_append hall' hall⟩, h'.inBurst⟩
  rw [hlog', hlog, List.map_append, List.append_assoc]

/-- A whole burst. -/
theorem InBurst.loop (h : InBurst key w) (hk : key.toNat < 2 ^ 31) (rounds : ℕ)
    (hrun : (burstLoop env (functors env host n) rounds).run w = .ok ((), w')) :
    Sends env obj rest key (burstDraws env (functors env host n) rounds w) w w' := by
  induction rounds generalizing w with
  | zero =>
    cases hrun
    exact ⟨⟨[], rfl, .nil⟩, h⟩
  | succ rounds ih =>
    rcases run_bind_eq_ok hrun with ⟨_, u, hround, hrest⟩
    have hfirst := h.round env host n obj rest hk hround
    rw [burstDraws, hround]
    exact hfirst.trans env obj rest (ih hfirst.inBurst hrest)

theorem InBurst.ebp (h : InBurst key w) (hk : key.toNat < 2 ^ 31) {r : ℤ}
    (hrun : (defaultEbpPadAlgo env (functors env host n)).run w = .ok (r, w')) :
    Sends env obj rest key [w] w w' := by
  rcases defaultEbpPadAlgo_cases hrun with ⟨hb, -⟩ | ⟨-, msg, u, status, hdraw, hsend⟩
  · rw [h.burst] at hb
    cases hb
  · cases hdraw.symm.trans (h.drawDummy_run env)
    exact h.send env host n obj rest hk hsend

theorem InBurst.cbp (h : InBurst key w) (hk : key.toNat < 2 ^ 31) {r : ℤ}
    (hrun : (defaultCbpPadAlgo env (functors env host n)).run w = .ok (r, w')) :
    ∃ u, Sends env obj rest key (burstDraws env (functors env host n)
      (srppRand 0 3 (env.rand w.lib.tick)).toNat { w with lib := w.lib.ticked })
      { w with lib := w.lib.ticked } u ∧ w'.log = u.log := by
  rcases defaultCbpPadAlgo_cases hrun with ⟨hb, -⟩ | ⟨-, u, count, hloop, rfl⟩
  · rw [h.burst] at hb
    cases hb
  · have hticked : InBurst key { w with lib := w.lib.ticked } := ⟨h.drawable, h.burst, h.key⟩
    exact ⟨u, hticked.loop env host n obj rest hk _ hloop, rfl⟩

end Burst

/-- In every state of every run in one padding mode, the dummies an algorithm sends are
those it draws, and a receiver with the same key recognises each of them just when the
entry it was drawn from was acceptable. -/
theorem dummies_recognised_iff {env : Env} {host : Host} {option : ℤ} {w w' : Process} {r : ℤ} (n : ℕ)
    (algo : PadAlgo) (h : Reached env host option w)
    (hk : w.lib.session.encryptionKey.toNat ≤ 65534)
    (hrun : (algo.run env (functors env host n)).run w = .ok (r, w')) (obj : SRPPMessage) (rest : Mem) :
    ∃ ds : List Datagram, w'.log = ds.map .rtpMessage ++ w.log ∧
      List.Forall₂ (Judged env w.lib.session.encryptionKey obj rest) ds
        (algo.draws env (functors env host n) w) := by
  rcases h.padding with ⟨hmode, hdrawable⟩
  have hkey : w.lib.session.encryptionKey.toNat < 2 ^ 31 := by omega
  by_cases hb : w.lib.padding.isBurstPadding = true
  · have hoption : option = 2 := of_decide_eq_true (hmode.burst.symm.trans hb)
    have hin : InBurst w.lib.session.encryptionKey w :=
      ⟨hdrawable (by omega), hb, rfl⟩
    cases algo with
    | cbp =>
      rcases hin.cbp env host n obj rest hkey hrun with ⟨u, hsends, hlog⟩
      rw [PadAlgo.draws, if_pos hb, hlog]
      exact hsends.dummies
    | ebp =>
      rw [PadAlgo.draws, if_pos hb]
      exact (hin.ebp env host n obj rest hkey hrun).dummies
  · -- the other modes send no dummies
    have hsilent : w' = w ∧ algo.draws env (functors env host n) w = [] := by
      cases algo with
      | cbp =>
        rcases defaultCbpPadAlgo_cases hrun with ⟨-, hsame⟩ | ⟨hburst, -⟩
        · exact ⟨hsame, if_neg hb⟩
        · exact absurd hburst hb
      | ebp =>
        rcases defaultEbpPadAlgo_cases hrun with ⟨-, hsame⟩ | ⟨hburst, -⟩
        · exact ⟨hsame, if_neg hb⟩
        · exact absurd hburst hb
    rw [hsilent.1, hsilent.2]
    exact ⟨[], rfl, .nil⟩

/-- An environment in which uninitialised words are not zero, and a key of 2000 is drawn. -/
def markedEnv : Env :=
  { Env.constant 0 with
    rand := fun t => if t < 600 then 0 else 2000
    junk := fun _ _ => 1 }

/-- A session in burst mode whose handshake has completed. -/
def burstSession (env : Env) : Op Unit :=
  session env localHost 2
    [some (udpPacket 1 5000 (signalBytes 13 (helloAckOptions 1464))), none] 1 1

/-- The check of a state for a dummy that can be sent. -/
def sendsCheck (env : Env) (acceptable : Bool) (w : Process) : Bool :=
  decide (w.lib.session.encryptionKey.toNat ≤ 65534) && w.lib.padding.isBurstPadding &&
    decide (decide (Acceptable env w) = acceptable) &&
    endsIn (PadAlgo.ebp.run env (functors env localHost 1)) w fun _ => true

theorem sends_of_check {env : Env} {acceptable : Bool} {w : Process}
    (h : sendsCheck env acceptable w = true) : w.lib.session.encryptionKey.toNat ≤ 65534 ∧
      w.lib.padding.isBurstPadding = true ∧ decide (Acceptable env w) = acceptable ∧ ∃ r w',
        (PadAlgo.ebp.run env (functors env localHost 1)).run w = .ok (r, w') := by
  simp only [sendsCheck, Bool.and_eq_true, decide_eq_true_eq] at h
  rcases endsIn_run h.2 with ⟨r, w', hrun, -⟩
  exact ⟨h.1.1.1, h.1.1.2, h.1.2, r, w', hrun⟩

/-- A constructed entry with a signalling word is sent as a dummy and not recognised. -/
theorem marked_dummy_not_recognised : ∃ w w' r d, Reached markedEnv localHost 2 w ∧
    w.lib.session.encryptionKey.toNat ≤ 65534 ∧
    (PadAlgo.ebp.run markedEnv (functors markedEnv localHost 1)).run w = .ok (r, w') ∧
    w'.log = .rtpMessage d :: w.log ∧ ¬Recognises w.lib.session.encryptionKey w.ext.srppMsg
      (received (fun _ => 0) d.bytes) (d.bytes.length - 28) := by
  have hcheck : endsIn (burstSession markedEnv) (atMain markedEnv) (sendsCheck markedEnv false) =
      true := by decide +kernel
  rcases endsIn_run hcheck with ⟨_, w, hsession, hw⟩
  rcases sends_of_check hw with ⟨hk, hb, hnot, r, w', hrun⟩
  have hreached : Reached markedEnv localHost 2 w := session_run hsession
  have hin : InBurst w.lib.session.encryptionKey w := ⟨hreached.padding.2 (by decide), hb, rfl⟩
  obtain ⟨ds, hlog, hall⟩ :=
    (hin.ebp markedEnv localHost 1 w.ext.srppMsg (fun _ => 0) (by omega) hrun).dummies
  rcases List.forall₂_cons_right_iff.mp hall with ⟨d, _, hjudged, hnil, rfl⟩
  obtain rfl := List.forall₂_nil_right_iff.mp hnil
  exact ⟨w, w', r, d, hreached, hk, hrun, hlog, fun hr =>
    absurd (hjudged.mp hr) (of_decide_eq_false hnot)⟩

/-- With zeroed memory the same session sends a dummy that is recognised. -/
theorem dummies_recognised_zeroed : ∃ w w' r d, Reached (Env.constant 0) localHost 2 w ∧
    w.lib.session.encryptionKey.toNat ≤ 65534 ∧
    (PadAlgo.ebp.run (Env.constant 0) (functors (Env.constant 0) localHost 1)).run w = .ok (r, w') ∧
    w'.log = .rtpMessage d :: w.log ∧ Recognises w.lib.session.encryptionKey w.ext.srppMsg
      (received (fun _ => 0) d.bytes) (d.bytes.length - 28) := by
  have hcheck : endsIn (burstSession (Env.constant 0)) (atMain (Env.constant 0))
      (sendsCheck (Env.constant 0) true) = true := by decide +kernel
  rcases endsIn_run hcheck with ⟨_, w, hsession, hw⟩
  rcases sends_of_check hw with ⟨hk, hb, hyes, r, w', hrun⟩
  have hreached : Reached (Env.constant 0) localHost 2 w := session_run hsession
  obtain ⟨ds, hlog, hall⟩ :=
    dummies_recognised_iff 1 .ebp hreached hk hrun w.ext.srppMsg (fun _ => 0)
  rw [PadAlgo.draws, if_pos hb] at hall
  rcases List.forall₂_cons_right_iff.mp hall with ⟨d, _, hjudged, hnil, rfl⟩
  obtain rfl := List.forall₂_nil_right_iff.mp hnil
  exact ⟨w, w', r, d, hreached, hk, hrun, hlog, hjudged.mpr (of_decide_eq_true hyes)⟩

end Sqrkal.Discovery
