import Sqrkal.Library.Signaling
import Sqrkal.Message.Framing

/-! # Signalling datagrams

What `send_message` puts on the wire for a HELLO or a HELLOACK, and what
`processReceivedData` reads out of it. The decoder hands the handlers the text
with eight bytes of trailer behind it; the fields they parse end before.
-/

namespace Sqrkal.Handshake
open Foundation Mem Message Library

/-- A signalling message of a type, with a text. -/
structure Carries (msg : SRPPMessage) (kind : BitVec 32) (options : List Byte) : Prop where
  pt : msg.srppHeader.pt = 124
  signalling : msg.srppHeader.srppSignalling = kind
  cc : msg.srppHeader.cc = 0#4
  payload : msg.encryptedPart.originalPayload = options
  padding : msg.encryptedPart.srppPadding = []
  padCount : msg.encryptedPart.padCount = 0

/-- The bytes of its datagram. -/
def IsSignal (kind : BitVec 32) (options d : List Byte) : Prop :=
  ∃ msg mem wire, Carries msg kind options ∧ IsWire msg 0 mem wire ∧
    d = wire.read 0 (options.length + 92)

theorem signalingClass_eq_one {signalling : BitVec 32} {pt : BitVec 7} (hs : signalling ≠ 0)
    (hp : pt = 124) : signalingClass signalling pt = 1 := by
  rw [signalingClass, if_neg fun h => hs h.1, if_pos ⟨hs, hp⟩]

section Sender
variable {kind : BitVec 32} {options : List Byte} {msg : SRPPMessage}

theorem signalingMessage_run (env : Env) (l : Lib) (kind : BitVec 32) (options : List Byte) :
    ∃ msg, (signalingMessage env kind options).run l = .ok (msg, l.constructed) ∧
      Carries msg kind options :=
  ⟨_, rfl, rfl, rfl, rfl, rfl, rfl, rfl⟩

theorem Carries.isSignalingMessage (h : Carries msg kind options) (hk : kind ≠ 0) :
    isSignalingMessage msg = 1 :=
  signalingClass_eq_one (by rwa [h.signalling]) h.pt

theorem Carries.not_padded (h : Carries msg kind options) : ¬Padded msg 0 := by
  simp [Padded, wirePad, maskPadCount, h.padCount]

theorem Carries.trailerAt (h : Carries msg kind options) : trailerAt msg 0 = 80 + options.length := by
  rw [Message.trailerAt, if_neg h.not_padded, h.payload, add_zero]

theorem Carries.srppSize (h : Carries msg kind options) : srppSize msg = options.length + 92 := by
  rw [Message.srppSize, h.payload, h.padding, sizeofSRPPHeader]
  simp only [List.length_nil]
  omega

/-- The datagram that `send_message` hands to the send functor. -/
theorem sendMessage_signal {δ : Type} (env : Env) (w : World δ)
    (h : Carries msg kind options) (hk : kind ≠ 0) (ho : options ≠ []) :
    ∃ d, IsSignal kind options d ∧ ∀ F : Functors δ,
      (sendMessage env F msg).run w = (do
        let status ← F.send d
        setLib fun l => { l with packetToSend := 0 }
        return status).run { w with lib := { w.lib.ticked with packetToSend := 1 } } := by
  obtain ⟨wire, hw, hi⟩ := srppToNetwork_isWire msg (env.junk w.lib.tick) (env.filler w.lib.tick) 0
    h.cc
  refine ⟨wire.read 0 (options.length + 92), ⟨msg, _, wire, h, hi, rfl⟩, fun F => ?_⟩
  have hn : (Message.srppSize msg).toNat = options.length + 92 := by
    rw [h.srppSize]
    omega
  rw [sendMessage_run env F (by rwa [h.payload]) (by rw [if_pos (h.isSignalingMessage hk), hw]), hn]

end Sender

section Receiver
variable {kind : BitVec 32} {options d : List Byte}

/-- A signalling datagram in the memory of the receiver. -/
theorem IsSignal.around (h : IsSignal kind options d) (junk : Mem) :
    d.length = options.length + 92 ∧
      ∃ msg mem, Carries msg kind options ∧ IsWire msg 0 mem (junk.around d) := by
  rcases h with ⟨msg, mem, wire, hc, hi, rfl⟩
  refine ⟨by simp, msg, mem, hc, hi.congr ?_⟩
  rw [hc.trailerAt]
  exact (write_read_agreesOn _ _ _).symm.mono le_rfl (by push_cast; omega)

/-- The payload a signalling datagram is decoded to. -/
theorem Carries.read_payload {msg : SRPPMessage} {mem wire : Mem} (hc : Carries msg kind options)
    (h : IsWire msg 0 mem wire) (hn : 0#8 ∉ options) :
    wire.read 80 (options.length + 8) =
      options ++ wire.read (80 + (options.length : ℤ)) 8 := by
  have hag := h.payload
  rw [hc.payload] at hag
  rw [read_add, hag.read le_rfl le_rfl, strcpy_read_of_no_nul _ _ hn]

/-- A received signalling datagram reaches the handler for its type. -/
theorem processReceivedData_signal {δ : Type} (env : Env) (F : Functors δ) {w : World δ}
    (h : IsSignal kind options d) (hk : kind ≠ 0) (hn : 0#8 ∉ options) (junk : Mem)
    (hs : w.lib.signalingBySrpp = true) :
    ∃ msg tail, msg.srppHeader.srppSignalling = kind ∧
      msg.encryptedPart.originalPayload = options ++ tail ∧
      (processReceivedData env F (junk.around d) d.length).run w =
        (do dispatch env F msg; return none).run { w with lib := w.lib.constructed } := by
  rcases h.around junk with ⟨hl, msg, mem, hc, hi⟩
  obtain ⟨csrc, hd⟩ := networkToSrpp_isWire (createSrppMessage (w.lib.fresh env) []) hi hc.cc
    (by simp [wirePad, maskPadCount, hc.padCount])
  have hlen : ((d.length : ℕ) : ℤ) = trailerAt msg 0 + 12 := by
    rw [hc.trailerAt, hl]
    push_cast
    omega
  rcases hi.header with ⟨csrc', hh⟩
  have hbuf : isSignalingBuffer (junk.around d) = 1 := by
    rw [isSignalingBuffer, hh]
    exact signalingClass_eq_one (mt htonl_eq_zero.mp (by rwa [hc.signalling])) hc.pt
  have hmsg : isSignalingMessage (decoded msg (createSrppMessage (w.lib.fresh env) []) 0 csrc
      (junk.around d)) = 1 :=
    signalingClass_eq_one (by rwa [← hc.signalling] at hk) hc.pt
  refine ⟨decoded msg (createSrppMessage (w.lib.fresh env) []) 0 csrc (junk.around d),
    (junk.around d).read (80 + (options.length : ℤ)) 8, hc.signalling, ?_, ?_⟩
  · simp only [decoded, if_neg hc.not_padded, hc.payload]
    exact hc.read_payload hi hn
  · rw [processReceivedData, run_bind_ok (onLib_run (createMessage_run _ env [])), run_get_bind]
    simp only [Lib.constructed, hs, Bool.not_true, Bool.false_and, Bool.false_eq_true, if_false, hbuf,
      if_true]
    rw [hlen, run_bind_ok (run_lift_ok hd _)]
    simp only [hmsg, if_true]

end Receiver

end Sqrkal.Handshake
