import Sqrkal.Handshake.Protocol

/-! # What the bytes of a signalling message say

`readSignal` is what `processReceivedData` takes from a datagram in memory. The messages that
the library builds are read back as what they were built to say, also if the first bytes of their
header are not the same any more.
-/

namespace Sqrkal.Handshake
open Foundation Mem Message Library

/-- The text that the decoder hands to the handlers. A datagram with too large a pad count is
rejected, but dispatched all the same, with the text of an empty message. -/
def signalText (mem : Mem) (n : ℤ) : List Byte :=
  if 1500 < (mem.load32 (n - 12)).toNat then [] else mem.read 80 (n - 84).toNat

/-- What a received HELLO or HELLOACK says. -/
def readSignal (mem : Mem) (n : ℤ) : Option Signal :=
  if isSignalingBuffer mem = 1 then
    if (SRPPHeader.load mem 0).ofWire.srppSignalling = 12 then
      some (.hello (BitVec.ofInt 32 (atoi (firstField (signalText mem n)))))
    else if (SRPPHeader.load mem 0).ofWire.srppSignalling = 13 then some .helloAck
    else none
  else none

section Reading
variable {mem mem' : Mem} {n : ℤ}

/-- Of the header only the payload type and the signalling word are read. -/
theorem isSignalingBuffer_congr (h1 : mem 1 = mem' 1) (h : AgreesOn mem mem' 76 80) :
    isSignalingBuffer mem = isSignalingBuffer mem' := by
  have hpt : (SRPPHeader.load mem 0).pt = (SRPPHeader.load mem' 0).pt :=
    congrArg (fun b : Byte => b.extractLsb' 0 7) h1
  have hword : (SRPPHeader.load mem 0).srppSignalling = (SRPPHeader.load mem' 0).srppSignalling :=
    h.load32 (by norm_num) (by norm_num)
  rw [isSignalingBuffer, isSignalingBuffer, hpt, hword]

/-- Of a short datagram there is no text, whatever its last bytes are. -/
theorem signalText_congr (h : AgreesOn mem mem' 68 (max 80 n)) :
    signalText mem n = signalText mem' n := by
  by_cases hn : n ≤ 84
  · have hnone : (n - 84).toNat = 0 := by omega
    simp [signalText, hnone, Mem.read]
  · rw [signalText, signalText, h.load32 (by omega) (by omega), h.read (by norm_num) (by omega)]

theorem readSignal_congr (h1 : mem 1 = mem' 1) (h : AgreesOn mem mem' 68 (max 80 n)) :
    readSignal mem n = readSignal mem' n := by
  have hword : (SRPPHeader.load mem 0).ofWire.srppSignalling =
      (SRPPHeader.load mem' 0).ofWire.srppSignalling := by
    have hload : mem.load32 (0 + 76) = mem'.load32 (0 + 76) := h.load32 (by norm_num) (by omega)
    exact congrArg htonl hload
  rw [readSignal, readSignal, isSignalingBuffer_congr h1 (h.mono (by norm_num) (by omega)), hword,
    signalText_congr h]

/-- What the handlers get of a signalling message, from an object without payload. -/
theorem networkToSrpp_signalText {obj msg : SRPPMessage} {status : ℤ}
    (hobj : obj.encryptedPart.originalPayload = []) (hsig : isSignalingBuffer mem = 1)
    (h : networkToSrpp obj mem n 0 = .ok (status, msg)) :
    msg.encryptedPart.originalPayload = signalText mem n := by
  have hword : (SRPPHeader.load mem 0).ofWire.srppSignalling ≠ 0 := by
    intro hzero
    exact signalingClass_ne_one.mpr (Or.inl (htonl_eq_zero.mp hzero)) hsig
  have hpad : (readTrailer obj mem n 0).encryptedPart.padCount = mem.load32 (n - 12) := rfl
  have hheader : (readTrailer obj mem n 0).srppHeader = (SRPPHeader.load mem 0).ofWire := rfl
  simp only [networkToSrpp, hpad, hheader, hword, and_false, if_false] at h
  rw [signalText]
  split_ifs at h ⊢ with hlarge
  · cases h
    exact hobj
  · rw [takePayload] at h
    dsimp only at h
    split_ifs at h
    cases h
    have hsize : n - 4 - sizeofSRPPHeader = n - 84 := by
      rw [sizeofSRPPHeader]
      omega
    rw [hsize]
    rfl

end Reading

/-! ## What the library says -/

/-- A signalling message in a datagram whose header has no marker bit. -/
structure IsUnmarked (kind : BitVec 32) (options d : List Byte) : Prop where
  signal : IsSignal kind options d
  second : d.getD 1 0 = 0x7c

/-- The datagrams the library sends to say something. -/
inductive IsSpoken (d : List Byte) : Signal → Prop
  | hello (key : ℕ) (psize : ℤ) (range : key < 65535)
      (h : IsUnmarked 12 (helloOptions key psize) d) : IsSpoken d (.hello (BitVec.ofInt 32 key))
  | helloAck (psize : ℤ) (h : IsUnmarked 13 (helloAckOptions psize) d) : IsSpoken d .helloAck

section Spoken
variable {kind : BitVec 32} {options d : List Byte}

theorem IsUnmarked.length (h : IsUnmarked kind options d) : d.length = options.length + 92 :=
  (h.signal.around fun _ => 0).1

theorem IsUnmarked.around_second (h : IsUnmarked kind options d) (junk : Mem) :
    junk.around d 1 = 0x7c := by
  have hone : 1 < d.length := by
    rw [h.length]
    omega
  rw [← h.second, show d.getD 1 0 = d[1] by simp [hone]]
  exact write_apply_inside junk 0 d 1 hone

/-- What is read of a signalling message where it was built. -/
theorem IsUnmarked.parts (h : IsUnmarked kind options d) (hk : kind ≠ 0) (hn : 0#8 ∉ options) :
    isSignalingBuffer (Mem.around (fun _ => 0) d) = 1 ∧
      (SRPPHeader.load (Mem.around (fun _ => 0) d) 0).ofWire.srppSignalling = kind ∧
      ∃ tail, signalText (Mem.around (fun _ => 0) d) d.length = options ++ tail := by
  rcases h.signal.around fun _ => 0 with ⟨hlen, msg, mem, hc, hi⟩
  rcases hi.header with ⟨csrc, hheader⟩
  have hend : ((d.length : ℕ) : ℤ) - 12 = trailerAt msg 0 := by
    rw [hc.trailerAt, hlen]
    push_cast
    ring
  have hsize : ((d.length : ℕ) : ℤ) - 84 = (options.length + 8 : ℕ) := by
    rw [hlen]
    push_cast
    ring
  refine ⟨?_, ?_, ?_⟩
  · rw [isSignalingBuffer, hheader]
    exact signalingClass_eq_one (mt htonl_eq_zero.mp (by rwa [hc.signalling])) hc.pt
  · rw [hheader, ofWire_toWire _ _ hc.cc]
    exact hc.signalling
  · rw [signalText, hend, hi.padCount, hc.padCount, if_neg (by decide), hsize, Int.toNat_natCast,
      hc.read_payload hi hn]
    exact ⟨_, rfl⟩

theorem IsSpoken.length {s : Signal} (h : IsSpoken d s) : 92 < d.length := by
  cases h with
  | hello key psize _ h =>
    have hne := List.length_pos_of_ne_nil (helloOptions_ne_nil key psize)
    rw [h.length]
    omega
  | helloAck psize h =>
    have hne := List.length_pos_of_ne_nil (helloAckOptions_ne_nil psize)
    rw [h.length]
    omega

theorem IsSpoken.second {s : Signal} (h : IsSpoken d s) : d.getD 1 0 = 0x7c := by
  cases h with
  | hello _ _ _ h => exact h.second
  | helloAck _ h => exact h.second

/-- What has been said is what is read, wherever the datagram ends up. -/
theorem IsSpoken.readSignal {s : Signal} (h : IsSpoken d s) {mem : Mem} (h1 : mem 1 = 0x7c)
    (ha : AgreesOn mem (Mem.around (fun _ => 0) d) 68 d.length) :
    readSignal mem d.length = some s := by
  have hlen := h.length
  have hag : AgreesOn mem (Mem.around (fun _ => 0) d) 68 (max 80 d.length) :=
    ha.mono le_rfl (by omega)
  cases h with
  | hello key psize range h =>
    rcases h.parts (by decide) (helloOptions_no_nul (by omega) psize) with
      ⟨hsig, hword, tail, htext⟩
    rw [readSignal_congr (h1.trans (h.around_second _).symm) hag, Handshake.readSignal,
      if_pos hsig, if_pos hword, htext, hello_key (by omega)]
  | helloAck psize h =>
    rcases h.parts (by decide) (helloAckOptions_no_nul psize) with ⟨hsig, hword, -⟩
    rw [readSignal_congr (h1.trans (h.around_second _).symm) hag, Handshake.readSignal,
      if_pos hsig, hword, if_neg (by decide), if_pos rfl]

end Spoken

/-! ## Sending -/

section Sending
variable {δ : Type} (env : Env) (F : Functors δ)

/-- A signalling message with a text is constructed and handed over. -/
theorem sendSignal_unmarked (kind : BitVec 32) {options : List Byte} (hk : kind ≠ 0)
    (ho : options ≠ []) (w : World δ) : ∃ d, IsUnmarked kind options d ∧
      (do
        let msg ← onLib (signalingMessage env kind options)
        sendMessage env F msg : World.Op δ ℤ).run w = (do
          let status ← F.send d
          setLib fun l => { l with packetToSend := 0 }
          return status : World.Op δ ℤ).run
            { w with lib := { w.lib.constructed.ticked with packetToSend := 1 } } := by
  let u : World δ := { w with lib := w.lib.constructed }
  obtain ⟨msg, hm, hmarker, hc⟩ : ∃ msg, (signalingMessage env kind options).run w.lib =
      .ok (msg, w.lib.constructed) ∧ msg.srppHeader.m = 0 ∧ Carries msg kind options :=
    ⟨_, rfl, rfl, rfl, rfl, rfl, rfl, rfl, rfl⟩
  obtain ⟨wire, hw, hi⟩ := srppToNetwork_isWire msg (env.junk u.lib.tick) (env.filler u.lib.tick) 0
    hc.cc
  have hn : (Message.srppSize msg).toNat = options.length + 92 := by
    rw [hc.srppSize]
    omega
  have hsecond : wire 1 = 0x7c := by
    rcases hi.header with ⟨csrc, hheader⟩
    rw [← octet1_split (wire 1)]
    have hm' : (wire 1).extractLsb' 7 1 = msg.srppHeader.m :=
      congrArg (fun h : SRPPHeader => h.m) hheader
    have hpt : (wire 1).extractLsb' 0 7 = msg.srppHeader.pt :=
      congrArg (fun h : SRPPHeader => h.pt) hheader
    rw [hm', hpt, hmarker, hc.pt]
    rfl
  refine ⟨wire.read 0 (options.length + 92), ⟨⟨msg, _, wire, hc, hi, rfl⟩, ?_⟩, ?_⟩
  · rw [List.getD_eq_getElem?_getD, List.getElem?_eq_getElem (by simp), read_getElem]
    exact hsecond
  · rw [run_bind_ok (onLib_run hm)]
    exact (sendMessage_run env F (w := u) (by rwa [hc.payload])
      (by rw [if_pos (hc.isSignalingMessage hk), hw])).trans (by rw [hn])

end Sending

end Sqrkal.Handshake
