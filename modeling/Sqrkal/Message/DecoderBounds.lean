import Sqrkal.Message.RoundTrip

/-! # Which bytes the decoder reads

`network_to_srpp` receives a pointer and a length. The header is read at the
pointer, the trailer backwards from the length, and the payload between them.
The ranges are listed here and the result is shown to depend on nothing else;
then the inputs on which all of them lie inside the packet are characterised.
-/

namespace Sqrkal.Message
open Foundation Mem

section Ranges
variable (mem : Mem) (bytes : ℤ) (key : BitVec 32)

/-- The signalling word as the decoder sees it. -/
def seenSignalling : BitVec 32 := htonl (mem.load32 76)

/-- The pad count of the trailer after decryption. -/
def seenPad : BitVec 32 := maskPadCount (mem.load32 (bytes - 12)) key (seenSignalling mem)

/-- The byte ranges of header, trailer, padding and payload, from start to end. -/
def decoderRanges : List (ℤ × ℤ) :=
  let pad : ℤ := (seenPad mem bytes key).toNat
  [(0, 80), (bytes - 12, bytes)] ++
    if 1500 < pad then []
    else if 0 < pad ∧ seenSignalling mem = 0 then
      [(bytes - 12 - pad, bytes - 12), (80, bytes - 12 - pad)]
    else [(80, bytes - 4)]

end Ranges

section Outcomes
variable {mem : Mem} {bytes : ℤ} {key : BitVec 32} (obj : SRPPMessage)

theorem readTrailer_padCount :
    (readTrailer obj mem bytes key).encryptedPart.padCount = seenPad mem bytes key := rfl

theorem networkToSrpp_rejected (h : 1500 < (seenPad mem bytes key).toNat) :
    networkToSrpp obj mem bytes key = .ok (-1, readTrailer obj mem bytes key) :=
  if_pos h

theorem networkToSrpp_padded (h : (seenPad mem bytes key).toNat ≤ 1500)
    (hp : 0 < (seenPad mem bytes key).toNat ∧ seenSignalling mem = 0) :
    networkToSrpp obj mem bytes key =
      takePayload (readTrailer obj mem bytes key) mem
        (bytes - 12 - (seenPad mem bytes key).toNat) (seenPad mem bytes key ^^^ key) :=
  (if_neg (by rw [readTrailer_padCount]; omega)).trans (if_pos hp)

theorem networkToSrpp_unpadded (h : (seenPad mem bytes key).toNat ≤ 1500)
    (hp : ¬(0 < (seenPad mem bytes key).toNat ∧ seenSignalling mem = 0)) :
    networkToSrpp obj mem bytes key =
      takePayload (readTrailer obj mem bytes key) mem (bytes - 4) 0 :=
  (if_neg (by rw [readTrailer_padCount]; omega)).trans (if_neg hp)

theorem takePayload_congr {mem' : Mem} {e : ℤ} (msg : SRPPMessage) (padCount : BitVec 32)
    (h : AgreesOn mem mem' 80 e) :
    takePayload msg mem e padCount = takePayload msg mem' e padCount := by
  unfold takePayload sizeofSRPPHeader
  by_cases hl : e - 80 < 0
  · simp only [if_pos hl]
  · have hr : mem.read 80 (e - 80).toNat = mem'.read 80 (e - 80).toNat :=
      h.read le_rfl (by omega)
    simp only [if_neg hl, hr]

/-- The decoder's result is a function of the bytes in its ranges. -/
theorem networkToSrpp_congr {mem' : Mem}
    (h : ∀ r ∈ decoderRanges mem bytes key, AgreesOn mem mem' r.1 r.2) :
    networkToSrpp obj mem bytes key = networkToSrpp obj mem' bytes key := by
  have hh : AgreesOn mem mem' 0 80 := h (0, 80) (by simp [decoderRanges])
  have ht : AgreesOn mem mem' (bytes - 12) bytes := h (bytes - 12, bytes) (by simp [decoderRanges])
  have hr : readTrailer obj mem bytes key = readTrailer obj mem' bytes key := by
    simp only [readTrailer, SRPPHeader.load_congr (a := 0) hh,
      ht.load32 (a := bytes - 12) (by omega) (by omega),
      ht.load16 (a := bytes - 8) (by omega) (by omega),
      ht.load16 (a := bytes - 6) (by omega) (by omega),
      ht.load32 (a := bytes - 4) (by omega) (by omega)]
  have hs : seenSignalling mem = seenSignalling mem' := congrArg (·.srppHeader.srppSignalling) hr
  have hpad : seenPad mem bytes key = seenPad mem' bytes key :=
    congrArg (·.encryptedPart.padCount) hr
  by_cases hj : 1500 < (seenPad mem bytes key).toNat
  · rw [networkToSrpp_rejected obj hj, networkToSrpp_rejected obj (hpad ▸ hj), hr]
  by_cases hp : 0 < (seenPad mem bytes key).toNat ∧ seenSignalling mem = 0
  · rw [networkToSrpp_padded obj (not_lt.mp hj) hp,
      networkToSrpp_padded obj (not_lt.mp (hpad ▸ hj)) (hpad ▸ hs ▸ hp), ← hr, ← hpad]
    exact takePayload_congr _ _ (h (80, _) (by simp [decoderRanges, hj, hp]))
  · rw [networkToSrpp_unpadded obj (not_lt.mp hj) hp,
      networkToSrpp_unpadded obj (not_lt.mp (hpad ▸ hj)) (hpad ▸ hs ▸ hp), ← hr]
    refine takePayload_congr _ _ (h (80, _) ?_)
    simp only [decoderRanges, Nat.cast_pos]
    rw [if_neg (by exact_mod_cast hj), if_neg hp]
    simp

end Outcomes

/-! ## Packets that are decoded within their bounds -/

def Inside (n : ℕ) (r : ℤ × ℤ) : Prop := 0 ≤ r.1 ∧ r.1 ≤ r.2 ∧ r.2 ≤ n

/-- Every range lies inside the packet, and the decoder either rejects it or
returns a slice that starts after the header, ends before the trailer and fits
into the payload array of an RTP message. The bytes around the packet are `mem`. -/
def DecodesInside (obj : SRPPMessage) (mem : Mem) (input : List Byte) (key : BitVec 32) : Prop :=
  (∀ r ∈ decoderRanges (mem.around input) input.length key, Inside input.length r) ∧
  ∃ status msg, networkToSrpp obj (mem.around input) input.length key = .ok (status, msg) ∧
    (status = -1 ∨ status = 0 ∧
      (∃ stop, 80 ≤ stop ∧ stop + 12 ≤ input.length ∧
        msg.encryptedPart.originalPayload = (input.take stop).drop 80) ∧
      (msg.encryptedPart.originalPayload.length : ℤ) < maxPayloadSize)

/-- The little-endian word at an offset of a packet. -/
def wordAt (bs : List Byte) (i : ℕ) : BitVec 32 :=
  bs.getD (i + 3) 0#8 ++ bs.getD (i + 2) 0#8 ++ bs.getD (i + 1) 0#8 ++ bs.getD i 0#8

/-- The pad count announced by the word twelve bytes before the end. -/
def announcedPad (input : List Byte) (key : BitVec 32) : ℕ :=
  (maskPadCount (wordAt input (input.length - 12)) key (htonl (wordAt input 76))).toNat

/-- A packet holds a header, and its trailer announces either more padding than
the decoder accepts, or a positive amount, on a media packet, that leaves room
for the header and for less than `MAXPAYLOADSIZE` bytes of payload. -/
def WellFramed (input : List Byte) (key : BitVec 32) : Prop :=
  80 ≤ input.length ∧
  (1500 < announcedPad input key ∨
    wordAt input 76 = 0 ∧ 1 ≤ announcedPad input key ∧ 92 + announcedPad input key ≤ input.length ∧
      input.length < 92 + announcedPad input key + 1464)

instance (input : List Byte) (key : BitVec 32) : Decidable (WellFramed input key) :=
  inferInstanceAs (Decidable (_ ∧ _))

section Packets
variable (mem : Mem) (input : List Byte)

theorem around_apply (i : ℕ) (h : i < input.length) : (mem.around input) i = input.getD i 0#8 := by
  have := write_apply_inside mem 0 input i h
  rw [zero_add] at this
  rw [around, this]
  simp [h]

theorem around_load32 (i : ℕ) (h : i + 4 ≤ input.length) :
    (mem.around input).load32 i = wordAt input i := by
  simp only [load32, wordAt]
  rw [← around_apply mem input i (by omega), ← around_apply mem input (i + 1) (by omega),
    ← around_apply mem input (i + 2) (by omega), ← around_apply mem input (i + 3) (by omega)]
  push_cast
  rfl

theorem around_read (n : ℕ) (h : 80 + n ≤ input.length) :
    (mem.around input).read 80 n = (input.take (80 + n)).drop 80 := by
  apply List.ext_getElem
  · simp
    omega
  intro i h₁ h₂
  simp only [read_length] at h₁
  rw [read_getElem, show (80 : ℤ) + (i : ℤ) = ((80 + i : ℕ) : ℤ) by push_cast; rfl,
    around_apply mem input (80 + i) (by omega)]
  simp [show 80 + i < input.length by omega]

variable (key : BitVec 32) (h80 : 80 ≤ input.length)
include h80

theorem seenSignalling_around : seenSignalling (mem.around input) = htonl (wordAt input 76) :=
  congrArg htonl (around_load32 mem input 76 (by omega))

theorem seenPad_around :
    (seenPad (mem.around input) input.length key).toNat = announcedPad input key := by
  have hw := around_load32 mem input (input.length - 12) (by omega)
  rw [Nat.cast_sub (by omega)] at hw
  rw [seenPad, seenSignalling_around mem input h80]
  exact congrArg (fun w => (maskPadCount w key _).toNat) hw

/-- The ranges of a packet with a full header. -/
theorem decoderRanges_around :
    decoderRanges (mem.around input) input.length key =
      [(0, 80), ((input.length : ℤ) - 12, (input.length : ℤ))] ++
        if 1500 < announcedPad input key then []
        else if 0 < announcedPad input key ∧ wordAt input 76 = 0 then
          [((input.length : ℤ) - 12 - announcedPad input key, (input.length : ℤ) - 12),
            (80, (input.length : ℤ) - 12 - announcedPad input key)]
        else [(80, (input.length : ℤ) - 4)] := by
  simp only [decoderRanges, seenPad_around mem input key h80, seenSignalling_around mem input h80,
    htonl_eq_zero, Nat.cast_pos, Nat.ofNat_lt_cast]

theorem seenSignalling_around_eq_zero :
    seenSignalling (mem.around input) = 0 ↔ wordAt input 76 = 0 := by
  rw [seenSignalling_around mem input h80, htonl_eq_zero]

variable (obj : SRPPMessage)

theorem decodesInside_of_rejected (hj : 1500 < announcedPad input key) :
    DecodesInside obj mem input key := by
  have hpad := seenPad_around mem input key h80
  refine ⟨?_, -1, _, networkToSrpp_rejected obj (by omega), Or.inl rfl⟩
  rw [decoderRanges_around mem input key h80, if_pos hj]
  simp only [List.append_nil, List.forall_mem_cons, Inside, List.not_mem_nil, false_imp_iff,
    implies_true, and_true]
  omega

theorem decodesInside_padded_iff (hj : announcedPad input key ≤ 1500)
    (hp : 0 < announcedPad input key ∧ wordAt input 76 = 0) :
    DecodesInside obj mem input key ↔
      92 + announcedPad input key ≤ input.length ∧
        input.length < 92 + announcedPad input key + 1464 := by
  have hpad := seenPad_around mem input key h80
  have hsig := seenSignalling_around_eq_zero mem input h80
  rw [DecodesInside, decoderRanges_around mem input key h80, if_neg (by omega), if_pos hp,
    networkToSrpp_padded obj (by omega) (by rwa [hpad, hsig]), hpad]
  constructor
  · rintro ⟨hin, status, msg, hr, hs⟩
    have hle : 92 + announcedPad input key ≤ input.length := by
      have := (hin (80, (input.length : ℤ) - 12 - announcedPad input key) (by simp)).2.1
      simp only at this
      omega
    refine ⟨hle, ?_⟩
    rcases Nat.exists_eq_add_of_le hle with ⟨n, hn⟩
    rw [show (input.length : ℤ) - 12 - announcedPad input key = 80 + (n : ℤ) by omega,
      takePayload_eq, Except.ok.injEq, Prod.mk.injEq] at hr
    rcases hr with ⟨rfl, rfl⟩
    obtain h | ⟨-, -, hm⟩ := hs
    · omega
    · simp only [read_length, maxPayloadSize] at hm
      omega
  · rintro ⟨hle, hlt⟩
    rcases Nat.exists_eq_add_of_le hle with ⟨n, hn⟩
    rw [show (input.length : ℤ) - 12 - announcedPad input key = 80 + (n : ℤ) by omega,
      takePayload_eq]
    refine ⟨?_, 0, _, rfl, Or.inr ⟨rfl, ⟨80 + n, by omega, by omega, ?_⟩, ?_⟩⟩
    · simp only [List.cons_append, List.nil_append, List.forall_mem_cons, Inside, List.not_mem_nil,
        false_imp_iff, implies_true, and_true]
      omega
    · exact around_read mem input n (by omega)
    · simp only [read_length, maxPayloadSize]
      omega

/-- Without padding the slice ends four bytes before the end, inside the trailer. -/
theorem not_decodesInside_unpadded (hj : announcedPad input key ≤ 1500)
    (hp : ¬(0 < announcedPad input key ∧ wordAt input 76 = 0)) :
    ¬DecodesInside obj mem input key := by
  have hpad := seenPad_around mem input key h80
  have hsig := seenSignalling_around_eq_zero mem input h80
  rw [DecodesInside, decoderRanges_around mem input key h80, if_neg (by omega), if_neg hp,
    networkToSrpp_unpadded obj (by omega) (by rwa [hpad, hsig])]
  rintro ⟨hin, status, msg, hr, hs⟩
  have hle : 84 ≤ input.length := by
    have := (hin (80, (input.length : ℤ) - 4) (by simp)).2.1
    simp only at this
    omega
  rcases Nat.exists_eq_add_of_le hle with ⟨n, hn⟩
  rw [show (input.length : ℤ) - 4 = 80 + (n : ℤ) by omega, takePayload_eq, Except.ok.injEq,
    Prod.mk.injEq] at hr
  rcases hr with ⟨rfl, rfl⟩
  obtain h | ⟨-, ⟨stop, h1, h2, he⟩, -⟩ := hs
  · omega
  · have hl := congrArg List.length he
    simp only [read_length, List.length_drop, List.length_take] at hl
    omega

end Packets

/-- The packets that are decoded within their bounds are the well framed ones,
whatever surrounds them in memory. -/
theorem decodesInside_iff (obj : SRPPMessage) (mem : Mem) (input : List Byte) (key : BitVec 32) :
    DecodesInside obj mem input key ↔ WellFramed input key := by
  unfold WellFramed
  by_cases h80 : 80 ≤ input.length
  swap
  · refine iff_of_false (fun h => ?_) (fun h => h80 h.1)
    have := (h.1 (0, 80) (by simp [decoderRanges])).2.2
    simp only at this
    omega
  by_cases hj : 1500 < announcedPad input key
  · exact iff_of_true (decodesInside_of_rejected mem input key h80 obj hj) ⟨h80, Or.inl hj⟩
  by_cases hp : 0 < announcedPad input key ∧ wordAt input 76 = 0
  · rw [decodesInside_padded_iff mem input key h80 obj (not_lt.mp hj) hp]
    exact ⟨fun h => ⟨h80, Or.inr ⟨hp.2, hp.1, h⟩⟩, fun h => (h.2.resolve_left hj).2.2⟩
  · apply iff_of_false (not_decodesInside_unpadded mem input key h80 obj (not_lt.mp hj) hp)
    rintro ⟨-, h | ⟨hs, h1, -⟩⟩
    · exact hj h
    · exact hp ⟨h1, hs⟩

/-- A packet of 84 zero bytes is accepted as a media message without padding, and
the payload it yields ends at the tag. A packet of one byte is read far beyond its end. -/
theorem not_decodesInside_zeros :
    ¬DecodesInside freshMessage (fun _ => 0) (List.replicate 84 0#8) 0 ∧
      ¬DecodesInside freshMessage (fun _ => 0) [0#8] 0 := by
  constructor
  · exact not_decodesInside_unpadded _ _ _ (by decide) _ (by decide) (by decide)
  · intro h
    have := (h.1 (0, 80) (by simp [decoderRanges])).2.2
    simp at this

end Sqrkal.Message
