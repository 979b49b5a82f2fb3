import Sqrkal.Discovery.Media
import Sqrkal.Discovery.Run

/-! # What reaches the local endpoint

The inbound branch of `process_packet` has one common end, and every earlier outcome
falls through to it: a signalling message that has been handled, and a dummy that has
been recognised, are forwarded like media.
-/

namespace Sqrkal.Discovery
open Foundation Mem Message Library Relation

/-- The packet decodes under a key to a message that decryption shows to be a dummy. -/
def DecodesToDummy (key : BitVec 32) (obj : SRPPMessage) (p : Packet) : Prop :=
  match networkToSrpp obj (p.mem.shift 28) (p.bytes.length - 28) key with
  | .ok (status, msg) => 0 ≤ status ∧ (decryptSrpp msg key).encryptedPart.dummyFlag = 1
  | .error _ => False

instance (key : BitVec 32) (obj : SRPPMessage) (p : Packet) : Decidable (DecodesToDummy key obj p) := by
  unfold DecodesToDummy
  split <;> infer_instance

/-- A signalling message or a dummy. -/
def IsNoise (w : Process) (p : Packet) : Prop :=
  isSignalingBuffer (p.mem.shift 28) = 1 ∨
    DecodesToDummy w.lib.session.encryptionKey w.ext.srppMsg p

/-- Where the local endpoint listens. -/
def localEndpoint (g : Globals) : SockAddr :=
  ⟨if g.rtpSrc = 0 then loopback else g.rtpSrc, htonsInt g.inport⟩

/-- Between two states a packet has been given to the socket, for the local endpoint. A
header shorter than twenty bytes would have its address overwritten by UDP fields. -/
def HandsOver (p : Packet) (w w' : Process) : Prop :=
  w.log.count (.handedOver p.id) < w'.log.count (.handedOver p.id) ∧
    (5 ≤ ihl p.mem → w'.ext.outAddr = localEndpoint w'.ext)

/-- `process_packet` returns without handing the packet over. -/
def Swallows (env : Env) (host : Host) (F : Functors Globals) (w : Process) (p : Packet) : Prop :=
  ∃ r w', (processPacket env host F p).run w = .ok (r, w') ∧ ¬HandsOver p w w'

section Inbound
variable {env : Env} {host : Host} {F : Functors Globals} {w w' : Process} {p : Packet}

theorem addressInbound_daddr (g : Globals) (buff : Mem) (bytesRead : ℤ) {offset : ℤ}
    (h : 20 ≤ offset) : daddr (addressInbound g buff bytesRead offset) = (localEndpoint g).addr := by
  unfold daddr addressInbound setTtl setTotLen setDaddr store16
  rw [load32_write_of_disjoint (by simp), load32_write_of_disjoint (by simp),
    load32_write_of_disjoint (by simp; omega), load32_store32]
  rfl

theorem deliverInbound_handsOver {buff : Mem} {bytesRead : ℤ}
    (h : (deliverInbound env p.id buff bytesRead (transportAt p.mem)).run w = .ok ((), w')) :
    HandsOver p w w' := by
  rw [deliverInbound, run_get_bind] at h
  dsimp only at h
  rw [run_bind_ok (setGlobals_run _ _)] at h
  let point := addressInbound w.ext buff bytesRead (transportAt p.mem)
  let u : Process := { w with ext := { w.ext with outAddr := ⟨daddr point, htonsInt w.ext.inport⟩ } }
  rcases forward_run env p.id point u bytesRead with ⟨_, lib, n, events, hf⟩
  have hrun := h.symm.trans (run_bind_ok hf)
  cases hrun
  refine ⟨?_, fun hihl => ?_⟩
  · calc w.log.count (.handedOver p.id)
        < (Event.handedOver p.id :: w.log).count (.handedOver p.id) := by simp
      _ ≤ (events ++ .handedOver p.id :: w.log).count (.handedOver p.id) :=
        (List.sublist_append_right _ _).count_le _
  · have hoffset : 20 ≤ transportAt p.mem := by
      unfold transportAt
      omega
    change (⟨daddr point, htonsInt w.ext.inport⟩ : SockAddr) = localEndpoint w.ext
    rw [addressInbound_daddr w.ext buff bytesRead hoffset]
    rfl

/-- Every packet of the inbound branch is handed over. -/
theorem inbound_handsOver (hF : Holds Effect F) (hp : IsMedia w.ext p) (hin : IsInward host p)
    {r : Option ℤ} (h : (processPacket env host F p).run w = .ok (r, w')) : HandsOver p w w' := by
  rw [processPacket_media hp, if_pos hin] at h
  rcases run_bind_eq_ok h with ⟨_, u, hrun, h⟩
  cases h
  rcases run_bind_eq_ok hrun with ⟨⟨buff, bytesRead⟩, v, hprep, hdel⟩
  have hpre : (enterRtp w p).log <:+ v.log :=
    effects_log_suffix (prepareInbound_effects env hF _ _ _ _ _ _ _ hprep)
  rcases deliverInbound_handsOver hdel with ⟨hcount, haddr⟩
  exact ⟨lt_of_le_of_lt (hpre.sublist.count_le _) hcount, haddr⟩

end Inbound

/-- With `apply_srpp` set, no signalling message and no dummy is kept from the endpoint. -/
theorem noise_not_swallowed (env : Env) (host : Host) (n : ℕ) (w : Process) (p : Packet) :
    w.ext.applySrpp = true → IsMedia w.ext p → IsInward host p → IsNoise w p →
      ¬Swallows env host (functors env host n) w p := by
  intro _ hp hin _
  rintro ⟨r, w', hrun, hnot⟩
  exact hnot (inbound_handsOver (functors_hold env host n) hp hin hrun)

/-! ## Two packets in a session -/

/-- A dummy on the wire, encrypted with a key. -/
def dummyOnWire (key : BitVec 32) : List Byte :=
  let msg := createSrppMessage ⟨1, 0, 19, 0⟩ [1, 2, 3]
  let dummy := { msg with
    encryptedPart := { msg.encryptedPart with dummyFlag := 1, srppPadding := [4], padCount := 1 } }
  match srppToNetwork (encryptSrpp dummy key 0) (fun _ => 0) (fun _ => 0) key with
  | .ok wire => wire.read 0 96
  | .error _ => []

/-- A session with a completed handshake. -/
def established : Op Unit :=
  session (Env.constant 0) localHost 0
    [some (udpPacket 1 5000 (signalBytes 13 (helloAckOptions 1464))), none] 1 1

/-- A packet is media from outside in a state with `apply_srpp` set, it has a property, and
`process_packet` returns. -/
def handledCheck (p : Packet) (noise : Bool) (w : Process) : Bool :=
  w.ext.applySrpp && decide (IsMedia w.ext p) && decide (IsInward localHost p) && noise &&
    endsIn (processPacket (Env.constant 0) localHost (functors (Env.constant 0) localHost 1) p) w
      fun _ => true

theorem handled_of_check {p : Packet} {noise : Bool} {w : Process} (h : handledCheck p noise w = true) :
    w.ext.applySrpp = true ∧ IsMedia w.ext p ∧ IsInward localHost p ∧ noise = true ∧ ∃ r w',
      (processPacket (Env.constant 0) localHost (functors (Env.constant 0) localHost 1) p).run w =
        .ok (r, w') := by
  simp only [handledCheck, Bool.and_eq_true, decide_eq_true_eq] at h
  rcases h with ⟨⟨⟨⟨happly, hp⟩, hin⟩, hnoise⟩, hends⟩
  rcases endsIn_run hends with ⟨r, w', hrun, -⟩
  exact ⟨happly, hp, hin, hnoise, r, w', hrun⟩

/-- A second HELLOACK reaches the endpoint. -/
theorem signalling_handed_over : ∃ w₀ w p r w', Begins (Env.constant 0) 0 w₀ ∧
    ReflTransGen (Step (Env.constant 0) localHost) w₀ w ∧ w.ext.applySrpp = true ∧
    IsMedia w.ext p ∧ IsInward localHost p ∧ isSignalingBuffer (p.mem.shift 28) = 1 ∧
    (processPacket (Env.constant 0) localHost (functors (Env.constant 0) localHost 1) p).run w =
      .ok (r, w') ∧ HandsOver p w w' := by
  let p := udpPacket 2 5000 (signalBytes 13 (helloAckOptions 1464))
  have hcheck : endsIn established (atMain (Env.constant 0))
      (handledCheck p (isSignalingBuffer (p.mem.shift 28) = 1)) = true := by decide +kernel
  rcases endsIn_run hcheck with ⟨_, w, hrun, hw⟩
  rcases session_run hrun with ⟨w₀, h₀, hsteps⟩
  rcases handled_of_check hw with ⟨happly, hp, hin, hnoise, r, w', hpacket⟩
  exact ⟨w₀, w, p, r, w', h₀, hsteps, happly, hp, hin, of_decide_eq_true hnoise, hpacket,
    inbound_handsOver (functors_hold _ _ _) hp hin hpacket⟩

/-- A dummy under the session key is not kept from the endpoint either. -/
theorem dummy_not_swallowed : ∃ w₀ w p, Begins (Env.constant 0) 0 w₀ ∧
    ReflTransGen (Step (Env.constant 0) localHost) w₀ w ∧ w.ext.applySrpp = true ∧
    IsMedia w.ext p ∧ IsInward localHost p ∧
    DecodesToDummy w.lib.session.encryptionKey w.ext.srppMsg p ∧
    ¬Swallows (Env.constant 0) localHost (functors (Env.constant 0) localHost 1) w p := by
  have hcheck : endsIn established (atMain (Env.constant 0)) (fun w =>
      let p := udpPacket 2 5000 (dummyOnWire w.lib.session.encryptionKey)
      handledCheck p (DecodesToDummy w.lib.session.encryptionKey w.ext.srppMsg p) w) = true := by
    decide +kernel
  rcases endsIn_run hcheck with ⟨_, w, hrun, hw⟩
  rcases session_run hrun with ⟨w₀, h₀, hsteps⟩
  rcases handled_of_check hw with ⟨happly, hp, hin, hnoise, -⟩
  have hdummy := of_decide_eq_true hnoise
  exact ⟨w₀, w, _, h₀, hsteps, happly, hp, hin, hdummy,
    noise_not_swallowed _ _ _ _ _ happly hp hin (Or.inr hdummy)⟩

end Sqrkal.Discovery
