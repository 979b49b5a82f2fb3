import Sqrkal.Handshake.Endpoint
import Sqrkal.Handshake.Received
import Sqrkal.Library.Unanswered

/-! # When a handler returns

A handler stops only where it decodes, sends or reads on. A message that is not answered
neither sends nor reads, and the answer to a HELLO is sent and noted before the handler
reads on, which is the last it does.
-/

namespace Sqrkal.Handshake
open Foundation Message Library

variable {δ : Type} (env : Env) (F : Functors δ)

/-- A BYEACK has no text and is not sent. -/
theorem sendByeAckMessage_returns (w : World δ) :
    ∃ r w', (sendByeAckMessage env F).run w = .ok (r, w') := by
  rw [sendByeAckMessage, run_get_bind]
  dsimp only
  split_ifs
  · exact ⟨_, _, rfl⟩
  · exact ⟨_, _, rfl⟩

theorem isAnswered_hello (f : Flags) : isAnswered f 12 = acks { f with hellorecvd := true } := by
  simp [isAnswered, acks]

theorem isAnswered_helloAck (f : Flags) :
    isAnswered f 13 = (!f.helloacksent && acks (ackFlags f)) := by
  cases h : f.helloacksent <;> cases h' : f.hellosent <;> simp [isAnswered, acks, ackFlags, h, h']

/-- What a handler does with the answer: it is sent and noted, then the next message is read
unless the handshake is complete. -/
def answerWith (kind : BitVec 32) (d : List Byte) : World.Op δ Unit := do
  let _ ← F.send d
  setLib fun l => { l with packetToSend := 0 }
  setFlags fun f => { f with helloacksent := true }
  (if !(← get).lib.flags.signalingComplete then F.receive else pure ())
  if kind = 13 then setFlags fun f => { f with hellosent := false, helloackrecvd := false } else pure ()

theorem IsSignal.ne_nil {kind : BitVec 32} {options d : List Byte} (h : IsSignal kind options d) :
    d ≠ [] := by
  rcases h with ⟨msg, mem, wire, -, -, rfl⟩
  intro hnil
  have hlen := congrArg List.length hnil
  rw [Mem.read_length] at hlen
  exact absurd hlen (by simp)

section Dispatch
variable {w : World δ} {msg : SRPPMessage}

/-- The state in which the handler of a HELLO decides on its answer. -/
def helloArrived (w : World δ) (msg : SRPPMessage) : World δ :=
  let options := msg.encryptedPart.originalPayload
  let l := lowerMaxpacketsize (atoi (firstField (afterComma options)))
    (setKey (atoi (firstField options)) w.lib)
  { w with lib := { l with flags := { l.flags with hellorecvd := true } } }

theorem helloArrived_flags (w : World δ) (msg : SRPPMessage) :
    (helloArrived w msg).lib.flags = { w.lib.flags with hellorecvd := true } := by
  simp [helloArrived, lowerMaxpacketsize_flags, setKey]

theorem dispatch_hello (hk : msg.srppHeader.srppSignalling = 12) :
    (dispatch env F msg).run w = (do
      let _ ← sendHelloAckMessage env F
      return () : World.Op δ Unit).run (helloArrived w msg) := by
  rw [dispatch, if_pos hk]
  rfl

/-- The state in which the handler of a HELLOACK decides on its answer. -/
def helloAckArrived (w : World δ) (msg : SRPPMessage) : World δ :=
  let l := lowerMaxpacketsize (atoi (firstField msg.encryptedPart.originalPayload)) w.lib
  { w with lib := { l with flags := ackFlags w.lib.flags }, log := .completed :: w.log }

theorem helloAckArrived_flags (w : World δ) (msg : SRPPMessage) :
    (helloAckArrived w msg).lib.flags = ackFlags w.lib.flags := rfl

theorem dispatch_helloAck (hk : msg.srppHeader.srppSignalling = 13) :
    (dispatch env F msg).run w = (do
      let _ ← (if w.lib.flags.helloacksent then pure 0 else sendHelloAckMessage env F)
      setFlags fun f => { f with hellosent := false, helloackrecvd := false } : World.Op δ Unit).run
        (helloAckArrived w msg) := by
  rw [dispatch, if_neg (by rw [hk]; decide), if_pos hk, run_bind_ok (setLib_run _ _), receivedHelloAckMessage,
    bind_assoc, run_bind_ok (setFlags_run _ _), bind_assoc, run_get_bind, bind_assoc]
  dsimp only
  rw [lowerMaxpacketsize_flags]
  simp only [bind_assoc, pure_bind, bind_pure_unit]
  rfl

/-- A message that is not answered is handled without a send or a read. -/
theorem dispatch_returns (h : isAnswered w.lib.flags msg.srppHeader.srppSignalling = false) :
    ∃ w', (dispatch env F msg).run w = .ok ((), w') := by
  by_cases h12 : msg.srppHeader.srppSignalling = 12
  · rw [h12, isAnswered_hello, ← helloArrived_flags w msg] at h
    rcases sendHelloAckMessage_refused env F h with ⟨r, l, hr, -⟩
    rw [dispatch_hello env F h12, run_bind_ok hr]
    exact ⟨_, rfl⟩
  by_cases h13 : msg.srppHeader.srppSignalling = 13
  · rw [h13, isAnswered_helloAck, ← helloAckArrived_flags w msg] at h
    rw [dispatch_helloAck env F h13]
    cases hs : w.lib.flags.helloacksent with
    | true => exact ⟨_, rfl⟩
    | false =>
      rw [hs, Bool.not_false, Bool.true_and] at h
      rcases sendHelloAckMessage_refused env F h with ⟨r, l, hr, -⟩
      rw [if_neg (by decide), run_bind_ok hr]
      exact ⟨_, rfl⟩
  rw [dispatch, if_neg h12, if_neg h13]
  split_ifs
  · rw [receivedByeMessage, bind_assoc, run_bind_ok (setFlags_run _ _)]
    rcases sendByeAckMessage_returns env F { w with lib :=
      { w.lib with flags := { w.lib.flags with byerecvd := true } } } with ⟨r, w', hr⟩
    rw [run_bind_ok hr]
    exact ⟨_, rfl⟩
  · rw [receivedByeAckMessage, bind_assoc, run_bind_ok (setFlags_run _ _), bind_assoc, run_get_bind,
      bind_assoc, run_bind_ok (setFlags_run _ _)]
    dsimp only
    split_ifs
    · exact ⟨_, rfl⟩
    · rcases sendByeAckMessage_returns env F { w with lib := { w.lib with flags :=
        { w.lib.flags with byeackrecvd := true, sessionComplete := true } } } with ⟨r, w', hr⟩
      rw [run_bind_ok hr]
      exact ⟨_, rfl⟩
  · exact ⟨_, rfl⟩

/-- A message that is answered: all that is left is to send the answer. -/
theorem dispatch_answers (h : isAnswered w.lib.flags msg.srppHeader.srppSignalling = true) :
    ∃ d v, d ≠ [] ∧ v.ext = w.ext ∧
      v.lib.flags.signalingComplete =
        (w.lib.flags.signalingComplete || msg.srppHeader.srppSignalling == 13) ∧
      ∀ F : Functors δ,
        (dispatch env F msg).run w = (answerWith F msg.srppHeader.srppSignalling d).run v := by
  by_cases h12 : msg.srppHeader.srppSignalling = 12
  · rw [h12, isAnswered_hello, ← helloArrived_flags w msg] at h
    rcases sendHelloAckMessage_acking env h with ⟨d, hd, hr⟩
    refine ⟨d, ⟨{ (helloArrived w msg).lib.constructed.ticked with packetToSend := 1 }, w.ext, w.log⟩,
      hd.ne_nil, rfl, ?_, fun F => ?_⟩
    · rw [h12]
      change (helloArrived w msg).lib.flags.signalingComplete = _
      rw [helloArrived_flags]
      simp
    · rw [dispatch_hello env F h12, run_bind_congr (hr F), h12]
      simp only [answerWith, bind_assoc, pure_bind, show ¬(12 : BitVec 32) = 13 by decide, if_false]
      rfl
  · have h13 : msg.srppHeader.srppSignalling = 13 := by
      simp only [isAnswered, h12, decide_false, Bool.false_and, Bool.false_or, Bool.and_eq_true,
        decide_eq_true_eq] at h
      exact h.2.1
    rw [h13, isAnswered_helloAck, Bool.and_eq_true, ← helloAckArrived_flags w msg] at h
    rcases sendHelloAckMessage_acking env h.2 with ⟨d, hd, hr⟩
    have hs : w.lib.flags.helloacksent = false := by simpa using h.1
    refine ⟨d, ⟨{ (helloAckArrived w msg).lib.constructed.ticked with packetToSend := 1 }, w.ext,
      .completed :: w.log⟩, hd.ne_nil, rfl, ?_, fun F => ?_⟩
    · rw [h13]
      change (helloAckArrived w msg).lib.flags.signalingComplete = _
      rw [helloAckArrived_flags]
      simp [ackFlags]
    · rw [dispatch_helloAck env F h13, hs, if_neg (by decide), run_bind_congr (hr F), h13]
      simp only [answerWith, bind_assoc, pure_bind, if_true]
      rfl

end Dispatch

/-! ## Decoding -/

/-- A signalling message of so many bytes can be decoded: there is room for a header and a
tag, or the pad count is rejected first. -/
def decodable (mem : Mem) (bytes : ℤ) : Prop := 84 ≤ bytes ∨ 1500 < (mem.load32 (bytes - 12)).toNat

instance (mem : Mem) (bytes : ℤ) : Decidable (decodable mem bytes) := inferInstanceAs (Decidable (_ ∨ _))

section Decoding
variable {mem : Mem} (bytes : ℤ)

theorem signalling_ne_zero (h : isSignalingBuffer mem = 1) :
    (SRPPHeader.load mem 0).ofWire.srppSignalling ≠ 0 := fun hz =>
  signalingClass_ne_one.mpr (Or.inl (htonl_eq_zero.mp hz)) h

theorem readTrailer_signalling (h : isSignalingBuffer mem = 1) (obj : SRPPMessage) (key : BitVec 32) :
    (readTrailer obj mem bytes key).encryptedPart.padCount = mem.load32 (bytes - 12) :=
  if_neg fun hk => signalling_ne_zero h hk.2

theorem networkToSrpp_signalling (h : isSignalingBuffer mem = 1) (obj : SRPPMessage)
    (key : BitVec 32) : networkToSrpp obj mem bytes key =
      if 1500 < (mem.load32 (bytes - 12)).toNat then .ok (-1, readTrailer obj mem bytes key)
      else takePayload (readTrailer obj mem bytes key) mem (bytes - 4) 0 := by
  rw [networkToSrpp, readTrailer_signalling bytes h]
  split_ifs with hpad hmedia
  · rfl
  · exact absurd hmedia.2 (signalling_ne_zero h)
  · rfl

theorem networkToSrpp_decodable (h : isSignalingBuffer mem = 1) (hd : decodable mem bytes)
    (obj : SRPPMessage) (key : BitVec 32) :
    ∃ status msg, networkToSrpp obj mem bytes key = .ok (status, msg) := by
  rw [networkToSrpp_signalling bytes h]
  split_ifs with hpad
  · exact ⟨_, _, rfl⟩
  · have hroom : ¬bytes - 4 - sizeofSRPPHeader < 0 := by
      have := hd.resolve_right hpad
      rw [sizeofSRPPHeader]
      omega
    rw [takePayload]
    dsimp only
    rw [if_neg hroom]
    exact ⟨_, _, rfl⟩

theorem networkToSrpp_not_decodable (h : isSignalingBuffer mem = 1) (hd : ¬decodable mem bytes)
    (obj : SRPPMessage) (key : BitVec 32) :
    networkToSrpp obj mem bytes key = .error .lengthError := by
  rcases not_or.mp hd with ⟨hshort, hpad⟩
  have hroom : bytes - 4 - sizeofSRPPHeader < 0 := by
    rw [sizeofSRPPHeader]
    omega
  rw [networkToSrpp_signalling bytes h, if_neg hpad, takePayload]
  dsimp only
  rw [if_pos hroom]

variable {w : World δ}

/-- A signalling message that cannot be decoded stops the process. -/
theorem processReceivedData_stops (h : isSignalingBuffer mem = 1) (hd : ¬decodable mem bytes) :
    (processReceivedData env F mem bytes).run w = .error .lengthError := by
  rw [processReceivedData_start, run_get_bind]
  dsimp only
  split_ifs
  · exact run_bind_error (run_lift_error (networkToSrpp_not_decodable bytes h hd _ _) _)
  · exact run_bind_error (run_lift_error (networkToSrpp_not_decodable bytes h hd _ _) _)

theorem processReceivedData_returns_bySip (h : isSignalingBuffer mem = 1) (hd : decodable mem bytes)
    (hb : bySip w.lib) : ∃ r w', (processReceivedData env F mem bytes).run w = .ok (r, w') := by
  rcases networkToSrpp_decodable bytes h hd (blank env w.lib) w.lib.session.encryptionKey with
    ⟨status, msg, hm⟩
  exact ⟨_, _, processReceivedData_delivers env F bytes hb hm⟩

/-- One that can be decoded is handed to its handler. -/
theorem processReceivedData_dispatches (h : isSignalingBuffer mem = 1) (hd : decodable mem bytes)
    (hb : ¬bySip w.lib) :
    ∃ msg, msg.srppHeader.srppSignalling = (SRPPHeader.load mem 0).ofWire.srppSignalling ∧
      ∀ F : Functors δ, (processReceivedData env F mem bytes).run w =
        (do dispatch env F msg; return none).run { w with lib := w.lib.constructed } := by
  rcases networkToSrpp_decodable bytes h hd (blank env w.lib) 0 with ⟨status, msg, hm⟩
  refine ⟨msg, by rw [networkToSrpp_srppHeader hm], fun F => ?_⟩
  rw [processReceivedData_start, run_get_bind]
  dsimp only
  rw [if_neg (mt (bySip_iff w.lib.constructed).mp hb), if_pos h, run_bind_ok (run_lift_ok hm _)]
  dsimp only
  rw [if_pos ((isSignalingMessage_iff hm).mpr h)]

end Decoding

end Sqrkal.Handshake
