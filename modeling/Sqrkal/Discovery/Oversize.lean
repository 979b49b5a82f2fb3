import Sqrkal.Discovery.FullBandwidth
import Sqrkal.Library.PadLimits

/-! # Datagrams that outgrow their buffer

`process_packet` builds the datagram for an outbound packet in the buffer the packet
came in. The padding of every mode but gradual ascent leaves room in it; gradual
ascent does as long as its limit has not been driven up.
-/

namespace Sqrkal.Discovery
open Foundation Message Library Relation

variable {env : Env} {host : Host} {option : ℤ} {w w' : Process}

/-- `BUFSIZE`. -/
def bufSize : ℤ := 2048

/-- A state that a run with an option passes through, also in the middle of a call. -/
def Passed (env : Env) (option : ℤ) (w : Process) : Prop :=
  ∃ w₀, Begins env option w₀ ∧ ReflTransGen Effect w₀ w

theorem Reached.passed (h : Reached env host option w) : Passed env option w := by
  rcases h with ⟨w₀, h₀, hrun⟩
  exact ⟨w₀, h₀, run_effects hrun⟩

/-- Gradual ascent is on only if it was chosen. -/
theorem Passed.steady (h : Passed env option w) (ho : option ≠ 3) :
    w.lib.padding.gradualAscentBandwidth = false := by
  rcases h with ⟨w₀, h₀, hsteps⟩
  have hdraw : Drawable w.lib.padding := by
    induction hsteps with
    | refl => exact h₀.padding.2 ho
    | tail _ hstep ih => exact ih.step (effect_padding hstep)
  exact hdraw.steady

/-- The bytes of a packet that become the payload. -/
def payloadSize (isSrtp : Bool) (bytesRead : ℤ) : ℤ := bytesRead - if isSrtp then 28 else 40

/-- A datagram of `n` bytes, made for a message: its length is the sum of its parts, its pad
count is accepted by the receiver, and it has room in the buffer. -/
structure IsAcceptable (msg : SRPPMessage) (key : BitVec 32) (n : ℤ) : Prop where
  length : n = 28 + 80 + (decryptSrpp msg key).encryptedPart.originalPayload.length +
    (decryptSrpp msg key).encryptedPart.srppPadding.length + 12
  padCount : (decryptSrpp msg key).encryptedPart.padCount.toNat ≤ 1500
  room : n ≤ bufSize

theorem outboundPayload_ok {isSrtp : Bool} {buff : Mem} {bytesRead : ℤ} {data : List Byte}
    (h : outboundPayload isSrtp buff bytesRead = .ok data) :
    (data.length : ℤ) = payloadSize isSrtp bytesRead := by
  unfold outboundPayload at h
  dsimp only at h
  split_ifs at h
  · cases h
    rw [Mem.read_length, payloadSize, if_pos (by assumption)]
    omega
  · cases h
    rw [Mem.read_length, payloadSize, if_neg (by assumption)]
    omega

/-- In every state of every run, a packet of at most `IP_MTU` bytes becomes a datagram that
receiver and buffer accept, in gradual ascent if the limit is low enough for it. -/
theorem outbound_acceptable_of_withinLimit (hexact : env.IsExact) (h : Passed env option w)
    {packet : ℕ} {buff buff' : Mem} {bytesRead n : ℤ} (hmtu : bytesRead ≤ ipMtu)
    (hlimit : option = 3 →
      WithinLimit w.lib.padding.lastmaxbandwidth (payloadSize w.ext.isSrtp bytesRead))
    (hrun : (convertOutboundOp env packet buff bytesRead).run w = .ok ((buff', n), w')) :
    IsAcceptable w'.ext.srppMsg w'.lib.session.encryptionKey n := by
  obtain ⟨rtp, data, msg, l, ssrc, key, srppBuff, filler, hdata, hmsg, hplace, rfl⟩ :=
    convertOutboundOp_ok hrun
  rcases placeOutbound_ok hplace with ⟨wire, -, -, rfl⟩
  have hsize := outboundPayload_ok hdata
  rcases rtpToSrppOp_ok hmsg with ⟨extra, l₁, m, padding, count, draw, hextra, hlen, hm, hseal⟩
  have hhi : (data.length : ℤ) ≤ 1472 := by
    rw [hsize, payloadSize]
    rw [ipMtu] at hmtu
    split_ifs <;> omega
  have hfits : Fits data.length extra := by
    apply extraSize_fits (Int.natCast_nonneg _) hhi hexact _ hextra
    intro hg
    by_cases ho : option = 3
    · rw [hsize]
      exact hlimit ho
    · have hsteady := h.steady ho
      rw [show w.lib.constructed.padding = w.lib.padding from rfl, hsteady] at hg
      cases hg
  have hpadding : (padding.length : ℤ) ≤ 1500 ∧ data.length + (padding.length : ℤ) ≤ 1928 := by
    rw [hlen]
    rcases hfits with ⟨hcount, hsum⟩
    constructor <;> omega
  change IsAcceptable msg l.session.encryptionKey _
  rw [hseal]
  rcases decrypt_sealSrpp m padding count l.session.encryptionKey draw with ⟨hd₁, hd₂, hd₃⟩
  have hbytes : srppSize (sealSrpp (withPadding m padding count) l.session.encryptionKey draw) =
      92 + data.length + padding.length := by
    change (80 : ℤ) + (m.encryptedPart.originalPayload.map _).length + (padding.map _).length + 12 = _
    rw [List.length_map, List.length_map, hm]
    omega
  constructor
  · rw [hd₁, hd₂, hm, hbytes]
    omega
  · rw [hd₃, BitVec.toNat_ofNat, Nat.mod_eq_of_lt (by omega)]
    omega
  · rw [hbytes, bufSize]
    omega

/-- Draws that are small until the first call is set up and large from then on. -/
def risingEnv : Env :=
  { Env.constant 0 with
    rand := fun t => if t < 520 then 0 else 1365
    ascent := fun paySize a b => (paySize * b).tdiv a }

/-- An outbound packet is converted during a call, to a datagram of a size. -/
def convertsTo (p : Packet) (size : ℤ → Bool) (w : Process) : Bool :=
  decide (IsMedia w.ext p) && decide (¬IsInward localHost p) && w.ext.applySrpp &&
    match (convertOutboundOp risingEnv p.id p.mem p.bytes.length).run w with
    | .ok ((_, n), _) => size n
    | .error _ => false

theorem converts_of_check {p : Packet} {size : ℤ → Bool} {w : Process}
    (h : convertsTo p size w = true) :
    IsMedia w.ext p ∧ ¬IsInward localHost p ∧ w.ext.applySrpp = true ∧ ∃ buff n w',
      (convertOutboundOp risingEnv p.id p.mem p.bytes.length).run w = .ok ((buff, n), w') ∧
        size n = true := by
  simp only [convertsTo, Bool.and_eq_true, decide_eq_true_eq] at h
  rcases h with ⟨⟨⟨hp, hout⟩, happly⟩, hn⟩
  refine ⟨hp, hout, happly, ?_⟩
  split at hn
  · exact ⟨_, _, _, by assumption, hn⟩
  · cases hn

/-- The first packet of a call in gradual ascent, with a payload of 1460 bytes, becomes a
datagram that is longer than the buffer. -/
theorem ascent_outgrows_buffer : ∃ w p buff n w', Reached risingEnv localHost 3 w ∧
    risingEnv.IsExact ∧ IsMedia w.ext p ∧ ¬IsInward localHost p ∧ w.ext.applySrpp = true ∧
    (p.bytes.length : ℤ) ≤ ipMtu ∧
    (convertOutboundOp risingEnv p.id p.mem p.bytes.length).run w = .ok ((buff, n), w') ∧
    ¬IsAcceptable w'.ext.srppMsg w'.lib.session.encryptionKey n := by
  have hcheck : endsIn (session risingEnv localHost 3 announcedCall 1 2) (atMain risingEnv)
      (convertsTo (spokenPacket (List.replicate 1460 7)) fun n => bufSize < n) = true := by
    decide +kernel
  rcases endsIn_run hcheck with ⟨_, w, hrun, hw⟩
  rcases converts_of_check hw with ⟨hp, hout, happly, buff, n, w', hconvert, hn⟩
  exact ⟨w, _, buff, n, w', session_run hrun, fun _ _ _ => rfl, hp, hout, happly, by decide +kernel,
    hconvert, fun ha => absurd ha.room (not_le.mpr (of_decide_eq_true hn))⟩

theorem outbound_acceptable_of_withinLimit_small : ∃ w p buff n w',
    Reached risingEnv localHost 3 w ∧ IsMedia w.ext p ∧ ¬IsInward localHost p ∧
    (convertOutboundOp risingEnv p.id p.mem p.bytes.length).run w = .ok ((buff, n), w') ∧
    IsAcceptable w'.ext.srppMsg w'.lib.session.encryptionKey n := by
  have hcheck : endsIn (session risingEnv localHost 3 announcedCall 1 2) (atMain risingEnv)
      (fun w => convertsTo (spokenPacket [1]) (fun _ => true) w && decide (WithinLimit
        w.lib.padding.lastmaxbandwidth (payloadSize w.ext.isSrtp (spokenPacket [1]).bytes.length))) =
        true := by
    decide +kernel
  rcases endsIn_run hcheck with ⟨_, w, hrun, hw⟩
  rw [Bool.and_eq_true, decide_eq_true_eq] at hw
  rcases converts_of_check hw.1 with ⟨hp, hout, -, buff, n, w', hconvert, -⟩
  have hreached : Reached risingEnv localHost 3 w := session_run hrun
  exact ⟨w, _, buff, n, w', hreached, hp, hout, hconvert, outbound_acceptable_of_withinLimit
    (fun _ _ _ => rfl) hreached.passed (by decide) (fun _ => hw.2) hconvert⟩

end Sqrkal.Discovery
