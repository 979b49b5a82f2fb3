import Sqrkal.Library.PaddingSteps
import Sqrkal.Message.RoundTrip

/-! # How much padding a packet can get

`srpp_rand(1, max)` gives at most the absolute value of `max`, also where `max` is
negative. Only gradual ascent keeps a limit of its own: one jump takes it up to 1365
above the payload that set it off, and from then on smaller packets are padded up to
it.
-/

namespace Sqrkal.Library
open Foundation Message

variable {env : Env} {l l' : Lib}

/-- `(int)(pay_size*(m/l))` is the truncated quotient. -/
def Env.IsExact (env : Env) : Prop :=
  ∀ paySize a b : ℤ, env.ascent paySize a b = (paySize * b).tdiv a

/-- Gradual ascent with a limit `last` pads a payload within what receiver and buffer take:
a jump starts from at most 563 bytes, and a limit that stays is not too high for either. -/
def WithinLimit (last paySize : ℤ) : Prop :=
  if last < paySize then paySize ≤ 563 else last ≤ 1928 ∧ last - paySize ≤ 1500

instance (last paySize : ℤ) : Decidable (WithinLimit last paySize) := by
  unfold WithinLimit
  infer_instance

/-! ## Draws -/

theorem srppRand_one_le (max : ℤ) (draw : ℕ) : srppRand 1 max draw ≤ |max| := by
  by_cases h : max = 0
  · subst h
    simp [srppRand]
  · rw [srppRand_eq h, Int.tmod_eq_emod_of_nonneg (Int.natCast_nonneg draw)]
    have := Int.emod_lt_abs draw h
    omega

/-- A draw of `srpp_rand(min, 1366)`. -/
theorem srppRand_1366 (min : ℤ) (draw : ℕ) :
    min ≤ srppRand min 1366 draw ∧ srppRand min 1366 draw ≤ min + 1365 := by
  rw [srppRand_eq (by decide), Int.tmod_eq_emod_of_nonneg (Int.natCast_nonneg draw)]
  omega

/-- The new limit lies between the payload and 1365 above it. -/
theorem ascent_bounds {paySize a b : ℤ} (hp : 0 ≤ paySize) (ha : paySize ≤ a) (hab : a ≤ b)
    (hb : b ≤ a + 1365) :
    paySize ≤ (paySize * b).tdiv a ∧ (paySize * b).tdiv a ≤ paySize + 1365 := by
  rcases hp.eq_or_lt with rfl | hpos
  · simp
  · have hapos : 0 < a := lt_of_lt_of_le hpos ha
    have hnum : 0 ≤ paySize * b := mul_nonneg hp (by omega)
    rw [Int.tdiv_eq_ediv_of_nonneg hnum]
    constructor
    · apply Int.le_ediv_of_mul_le hapos
      exact mul_le_mul_of_nonneg_left hab hp
    · apply Int.ediv_le_of_le_mul hapos
      calc paySize * b ≤ paySize * (a + 1365) := mul_le_mul_of_nonneg_left hb hp
        _ = paySize * a + paySize * 1365 := by ring
        _ ≤ paySize * a + a * 1365 := by omega
        _ = (paySize + 1365) * a := by ring

/-! ## The number of padding bytes -/

/-- It is accepted by the receiver and leaves the datagram inside the buffer. -/
def Fits (paySize extra : ℤ) : Prop := extra ≤ 1500 ∧ paySize + extra ≤ 1928

section Extra
variable {paySize extra : ℤ} (hlo : 0 ≤ paySize) (hhi : paySize ≤ 1472)
include hlo hhi

theorem fits_default (draw : ℕ) : Fits paySize (srppRand 1 (1366 - paySize) draw) := by
  have h := srppRand_one_le (1366 - paySize) draw
  rcases abs_cases (1366 - paySize) with ⟨habs, -⟩ | ⟨habs, -⟩
  · rw [habs] at h
    constructor <;> omega
  · rw [habs] at h
    constructor <;> omega

/-- The draw below a limit that is not smaller than the payload. -/
theorem fits_below {last : ℤ} (hp : paySize ≤ last) (hlast : last ≤ 1928)
    (hdiff : last - paySize ≤ 1500) (draw : ℕ) : Fits paySize (srppRand 1 (last - paySize) draw) := by
  have h := srppRand_one_le (last - paySize) draw
  rw [abs_of_nonneg (by omega)] at h
  constructor <;> omega

/-- The limit that gradual ascent uses for a packet, and the draw below it. -/
theorem ascent_fits (hexact : env.IsExact) (hlimit : WithinLimit l.padding.lastmaxbandwidth paySize)
    (hrun : (do
      (if l.padding.lastmaxbandwidth < paySize then ascend env paySize else pure ())
      rand env 1 ((← get).padding.lastmaxbandwidth - paySize) : Lib.Op ℤ).run l = .ok (extra, l')) :
    Fits paySize extra := by
  by_cases h : l.padding.lastmaxbandwidth < paySize
  · rw [WithinLimit, if_pos h] at hlimit
    rw [if_pos h] at hrun
    let a := srppRand paySize 1366 (env.rand l.tick)
    let b := srppRand a 1366 (env.rand (l.tick + 1))
    have ha := srppRand_1366 paySize (env.rand l.tick)
    have hb := srppRand_1366 a (env.rand (l.tick + 1))
    have hnew := ascent_bounds hlo ha.1 hb.1 hb.2
    have hextra : extra = srppRand 1 (env.ascent paySize a b - paySize) (env.rand (l.tick + 2)) := by
      cases hrun
      rfl
    rw [hextra, hexact]
    apply fits_below hlo hhi hnew.1 <;> omega
  · rw [WithinLimit, if_neg h] at hlimit
    rw [if_neg h] at hrun
    cases hrun
    exact fits_below hlo hhi (not_lt.mp h) hlimit.1 hlimit.2 _

/-- Every mode pads a payload of at most 1472 bytes within the limits, gradual ascent as
far as its own limit allows. -/
theorem extraSize_fits (hexact : env.IsExact)
    (hlimit : l.padding.gradualAscentBandwidth = true →
      WithinLimit l.padding.lastmaxbandwidth paySize)
    (hrun : (extraSize env paySize).run l = .ok (extra, l')) : Fits paySize extra := by
  rw [extraSize, run_get_bind] at hrun
  rcases run_bind_eq_ok hrun with ⟨e₁, l₁, h₁, hrun⟩
  rcases run_bind_eq_ok hrun with ⟨e₂, l₂, h₂, hrun⟩
  -- the first choice changes nothing but the number of draws
  have hfirst : Fits paySize e₁ ∧ l₁.padding = l.padding := by
    split_ifs at h₁
    · cases h₁
      exact ⟨⟨by omega, by omega⟩, rfl⟩
    · cases h₁
      exact ⟨fits_default hlo hhi _, rfl⟩
  have hsecond : Fits paySize e₂ := by
    by_cases hg : l.padding.gradualAscentBandwidth = true
    · have hlimit₁ := hlimit hg
      rw [if_pos hg] at h₂
      rw [← hfirst.2] at hlimit₁ h₂
      exact ascent_fits hlo hhi hexact hlimit₁ h₂
    · rw [if_neg hg] at h₂
      cases h₂
      exact hfirst.1
  split_ifs at hrun
  · cases hrun
    have hsmall : srppRand 0 10 (env.rand l₂.tick) < 10 := by
      rw [srppRand_eq (by decide), Int.tmod_eq_emod_of_nonneg (Int.natCast_nonneg _)]
      omega
    constructor
    · exact hsmall.le.trans (by decide)
    · have := add_lt_add_of_le_of_lt hhi hsmall
      exact this.le.trans (by decide)
  · cases hrun
    exact hsecond

omit hlo hhi in
/-- The number of padding bytes as the draws give it, in gradual ascent alone. -/
theorem extraSize_ascending (hg : l.padding.gradualAscentBandwidth = true)
    (hf : l.padding.isFullBandwidth = false)
    (hs : (l.padding.isSmallPerturbation || l.padding.isBurstPadding) = false) :
    ∃ l', (extraSize env paySize).run l =
      .ok (if l.padding.lastmaxbandwidth < paySize then
          srppRand 1 (env.ascent paySize (srppRand paySize 1366 (env.rand (l.tick + 1)))
            (srppRand (srppRand paySize 1366 (env.rand (l.tick + 1))) 1366 (env.rand (l.tick + 2))) -
              paySize) (env.rand (l.tick + 3))
        else srppRand 1 (l.padding.lastmaxbandwidth - paySize) (env.rand (l.tick + 1)), l') := by
  rw [extraSize, run_get_bind]
  dsimp only
  rw [hf, hg, hs, if_neg (by decide), run_bind_ok (rand_run _ _ _ _), if_pos rfl]
  by_cases h : l.padding.lastmaxbandwidth < paySize
  · rw [if_pos h, if_pos h]
    exact ⟨_, rfl⟩
  · rw [if_neg h, if_neg h]
    exact ⟨_, rfl⟩

/-- Beyond its limit gradual ascent exceeds one of the two for some draws. -/
theorem extraSize_exceeds (hexact : env.IsExact) (hg : l.padding.gradualAscentBandwidth = true)
    (hf : l.padding.isFullBandwidth = false)
    (hs : (l.padding.isSmallPerturbation || l.padding.isBurstPadding) = false)
    (hlimit : ¬WithinLimit l.padding.lastmaxbandwidth paySize) :
    ∃ r extra l', (extraSize { env with rand := r } paySize).run l = .ok (extra, l') ∧
      ¬Fits paySize extra := by
  by_cases h : l.padding.lastmaxbandwidth < paySize
  · rw [WithinLimit, if_pos h] at hlimit
    -- the smallest first draw, the largest second, and the largest number below the limit
    let r : ℕ → ℕ := fun t => if t = l.tick + 1 then 0 else if t = l.tick + 2 then 1365 else 1364
    have hr₁ : r (l.tick + 1) = 0 := if_pos rfl
    have hr₂ : r (l.tick + 2) = 1365 := by simp [r]
    have hr₃ : r (l.tick + 3) = 1364 := by simp [r]
    have ha : srppRand paySize 1366 0 = paySize := by simp [srppRand]
    have hb : srppRand paySize 1366 1365 = 1365 + paySize := rfl
    have hnew : env.ascent paySize paySize (1365 + paySize) = 1365 + paySize := by
      rw [hexact, Int.tdiv_eq_ediv_of_nonneg (by nlinarith), mul_comm,
        Int.mul_ediv_cancel _ (by omega)]
    rcases @extraSize_ascending { env with rand := r } l paySize hg hf hs with ⟨l', hrun⟩
    dsimp only at hrun
    rw [if_pos h, hr₁, hr₂, hr₃, ha, hb, hnew, add_sub_cancel_right] at hrun
    refine ⟨r, _, l', hrun, fun hfits => ?_⟩
    have hsum : paySize + 1365 ≤ 1928 := hfits.2
    omega
  · rw [WithinLimit, if_neg h] at hlimit
    let last := l.padding.lastmaxbandwidth
    have hpos : 0 < last - paySize := by omega
    have hmod : (((last - paySize - 1).toNat : ℕ) : ℤ).tmod (last - paySize) = last - paySize - 1 := by
      rw [Int.toNat_of_nonneg (by omega), Int.tmod_eq_emod_of_nonneg (by omega)]
      exact Int.emod_eq_of_lt (by omega) (by omega)
    rcases @extraSize_ascending { env with rand := fun _ => (last - paySize - 1).toNat } l paySize
      hg hf hs with ⟨l', hrun⟩
    dsimp only at hrun
    rw [if_neg h, srppRand_eq hpos.ne', hmod, sub_add_cancel] at hrun
    refine ⟨_, _, l', hrun, fun hfits => hlimit ?_⟩
    have hcount := hfits.1
    have hsum := hfits.2
    constructor <;> omega

end Extra

/-! ## The message -/

/-- Padding and encryption of a packet are undone by decryption with the session's key. -/
theorem decrypt_sealSrpp (msg : SRPPMessage) (padding : List Byte) (count key : BitVec 32)
    (draw : ℕ) :
    (decryptSrpp (sealSrpp (withPadding msg padding count) key draw) key).encryptedPart.originalPayload =
        msg.encryptedPart.originalPayload ∧
      (decryptSrpp (sealSrpp (withPadding msg padding count) key draw) key).encryptedPart.srppPadding =
        padding ∧
      (decryptSrpp (sealSrpp (withPadding msg padding count) key draw) key).encryptedPart.padCount =
        BitVec.ofNat 32 padding.length :=
  ⟨map_xor_xor _ _, map_xor_xor _ _, xor_xor_cancel _ _⟩

/-- A packet that is converted has got as many padding bytes as were decided on. -/
theorem rtpToSrppOp_ok {rtp : RTPHeader} {data : List Byte} {msg : SRPPMessage}
    (h : (rtpToSrppOp env rtp data).run l = .ok (msg, l')) :
    ∃ (extra : ℤ) (l₁ : Lib) (m : SRPPMessage) (padding : List Byte) (count : BitVec 32) (draw : ℕ),
      (extraSize env data.length).run l.constructed = .ok (extra, l₁) ∧
      padding.length = extra.toNat ∧ m.encryptedPart.originalPayload = data ∧
      msg = sealSrpp (withPadding m padding count) l'.session.encryptionKey draw := by
  rw [rtpToSrppOp, run_bind_ok (nextFresh_run l env)] at h
  rcases run_bind_eq_ok h with ⟨m, _, hfields, h⟩
  rcases run_lift_eq_ok hfields with ⟨hf, rfl⟩
  rcases run_bind_eq_ok h with ⟨p, l₂, hpad, h⟩
  cases h
  obtain ⟨extra, padding, l₁, hextra, hlen, rfl, -⟩ := pad_cases env hpad
  have hdata := (rtpFields_ok hf).2.2
  rw [hdata] at hextra
  exact ⟨extra, l₁, m, padding, BitVec.ofInt 32 extra, _, hextra, hlen, hdata, rfl⟩

end Sqrkal.Library
