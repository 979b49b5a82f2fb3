import Sqrkal.Library.CacheInvariants
import Sqrkal.Library.PadLimits
import Mathlib.Data.Rat.Floor

/-! # Gradual ascent over many packets

The limit of gradual ascent is raised by a packet that is larger than it, to that packet's
size scaled by a factor of at least one, and is otherwise kept. So it covers every packet
padded so far, and the draw below it never has a negative range.
-/

namespace Sqrkal.Library
open Foundation Message Relation

/-- `(int)(pay_size*(m/l))` is the payload size scaled by some factor of at least one, and
truncated. -/
def Env.ScalesUp (env : Env) : Prop :=
  ∀ paySize a b : ℤ, 0 ≤ paySize → 1 ≤ a → a ≤ b →
    ∃ q : ℚ, 1 ≤ q ∧ env.ascent paySize a b = ⌊paySize * q⌋

theorem Env.ScalesUp.le_ascent {env : Env} (h : env.ScalesUp) {paySize a b : ℤ} (hp : 0 ≤ paySize)
    (ha : 1 ≤ a) (hab : a ≤ b) : paySize ≤ env.ascent paySize a b := by
  rcases h paySize a b hp ha hab with ⟨q, hq, hvalue⟩
  rw [hvalue, Int.le_floor]
  exact le_mul_of_one_le_right (by exact_mod_cast hp) hq

/-- The exact quotient scales up. -/
theorem Env.IsExact.scalesUp {env : Env} (h : env.IsExact) : env.ScalesUp := by
  intro paySize a b hp ha hab
  have hpos : (0 : ℚ) < a := by exact_mod_cast ha
  refine ⟨b / a, ?_, ?_⟩
  · rw [le_div_iff₀ hpos, one_mul]
    exact_mod_cast hab
  · have hnum : 0 ≤ paySize * b := mul_nonneg hp (by omega)
    have hnat : ((a.toNat : ℕ) : ℚ) = (a : ℚ) := by exact_mod_cast Int.toNat_of_nonneg (by omega)
    rw [h, Int.tdiv_eq_ediv_of_nonneg hnum, ← mul_div_assoc, ← Int.cast_mul, ← hnat,
      Rat.floor_intCast_div_natCast, Int.toNat_of_nonneg (by omega)]

/-- Gradual ascent is the only mode that decides on the number of padding bytes. -/
structure OnlyGradual (p : Padding) : Prop where
  full : p.isFullBandwidth = false
  gradual : p.gradualAscentBandwidth = true
  small : p.isSmallPerturbation = false
  burst : p.isBurstPadding = false

/-- The size of a packet's payload. -/
def payloadLength (msg : SRPPMessage) : ℤ := msg.encryptedPart.originalPayload.length

/-- The number of bytes a packet is padded with. -/
def paddingLength (msg : SRPPMessage) : ℤ := msg.encryptedPart.srppPadding.length

/-! ## One packet -/

section Packet
variable {env : Env} {l l' : Lib}

/-- A limit is raised for a larger packet only, and the last draw is below it. -/
theorem extraSize_gradual (hmode : OnlyGradual l.padding) {n extra : ℤ}
    (h : (extraSize env n).run l = .ok (extra, l')) :
    ∃ limit draw a b, l'.padding = { l.padding with lastmaxbandwidth := limit } ∧
      extra = srppRand 1 (limit - n) draw ∧ n ≤ a ∧ a ≤ b ∧
      limit = if l.padding.lastmaxbandwidth < n then env.ascent n a b
        else l.padding.lastmaxbandwidth := by
  let a := srppRand n 1366 (env.rand (l.tick + 1))
  let b := srppRand a 1366 (env.rand (l.tick + 2))
  have hab := (srppRand_1366 a (env.rand (l.tick + 2))).1
  have hna := (srppRand_1366 n (env.rand (l.tick + 1))).1
  rw [extraSize, run_get_bind] at h
  dsimp only at h
  rw [hmode.full, hmode.gradual, hmode.small, hmode.burst, if_neg (by decide),
    run_bind_ok (rand_run _ _ _ _), if_pos rfl] at h
  by_cases hlast : l.padding.lastmaxbandwidth < n
  · rw [if_pos hlast] at h
    cases h
    exact ⟨env.ascent n a b, env.rand (l.tick + 3), a, b, rfl, rfl, hna, hab, (if_pos hlast).symm⟩
  · rw [if_neg hlast] at h
    cases h
    exact ⟨l.padding.lastmaxbandwidth, env.rand (l.tick + 1), a, b, rfl, rfl, hna, hab,
      (if_neg hlast).symm⟩

/-- A draw of `srpp_rand(1, max)` stays within a range that is not negative. -/
theorem srppRand_one_within {max : ℤ} (h : 0 ≤ max) (draw : ℕ) :
    0 ≤ srppRand 1 max draw ∧ srppRand 1 max draw ≤ max ∧ (max ≠ 0 → 1 ≤ srppRand 1 max draw) := by
  by_cases hz : max = 0
  · subst hz
    simp [srppRand]
  · have hlt := Int.emod_lt_of_pos (draw : ℤ) (show 0 < max by omega)
    have hnonneg := Int.emod_nonneg (draw : ℤ) hz
    rw [srppRand_eq hz, Int.tmod_eq_emod_of_nonneg (Int.natCast_nonneg draw)]
    omega

/-- What padding one packet does to the limit, and to the packet below it. -/
structure PadsBelow (l : Lib) (msg : SRPPMessage) (l' : Lib) : Prop where
  mode : OnlyGradual l'.padding
  raised : l.padding.lastmaxbandwidth ≤ l'.padding.lastmaxbandwidth
  covered : payloadLength msg ≤ l'.padding.lastmaxbandwidth
  below : payloadLength msg + paddingLength msg ≤ l'.padding.lastmaxbandwidth
  some : payloadLength msg ≠ l'.padding.lastmaxbandwidth → 1 ≤ paddingLength msg

theorem defaultPspPadAlgo_gradual (henv : env.ScalesUp) (hmode : OnlyGradual l.padding)
    (hlast : 0 ≤ l.padding.lastmaxbandwidth) {msg msg' : SRPPMessage}
    (h : (defaultPspPadAlgo env msg).run l = .ok (msg', l')) : PadsBelow l msg' l' := by
  rcases run_bind_eq_ok h with ⟨extra, l₁, hextra, h⟩
  rcases run_bind_eq_ok h with ⟨bytes, l₂, hbytes, h⟩
  cases h
  rcases generateDummyData_ok hbytes with ⟨hlen, hpadding, -⟩
  obtain ⟨limit, draw, a, b, hlimit, rfl, hna, hab, hvalue⟩ := extraSize_gradual hmode hextra
  let n : ℤ := msg.encryptedPart.originalPayload.length
  have hcovered : l.padding.lastmaxbandwidth ≤ limit ∧ n ≤ limit := by
    rw [hvalue]
    split_ifs with hlt
    · have hn : 0 < n := hlast.trans_lt hlt
      have hraise := henv.le_ascent hn.le (hn.trans_le hna) hab
      exact ⟨hlt.le.trans hraise, hraise⟩
    · exact ⟨le_rfl, not_lt.mp hlt⟩
  have hdraw := srppRand_one_within (sub_nonneg.mpr hcovered.2) draw
  have hpad : (bytes.length : ℤ) = srppRand 1 (limit - n) draw := by
    rw [hlen, Int.toNat_of_nonneg hdraw.1]
  have hl : l₂.padding = { l.padding with lastmaxbandwidth := limit } := hpadding.trans hlimit
  have hnew : l₂.padding.lastmaxbandwidth = limit := by rw [hl]
  constructor
  · change OnlyGradual l₂.padding
    rw [hl]
    exact ⟨hmode.full, hmode.gradual, hmode.small, hmode.burst⟩
  · exact hcovered.1.trans_eq hnew.symm
  · exact hcovered.2.trans_eq hnew.symm
  · change n + (bytes.length : ℤ) ≤ l₂.padding.lastmaxbandwidth
    omega
  · intro hne
    change n ≠ l₂.padding.lastmaxbandwidth at hne
    change 1 ≤ (bytes.length : ℤ)
    rw [hpad]
    exact hdraw.2.2 (by omega)

/-- The algorithm returns unless the entry it reads is empty. -/
theorem defaultPspPadAlgo_returns (env : Env) (l : Lib)
    (h : ∀ i : Fin 100, (i : ℕ) < 99 → HasPayload (l.padding.dummyCache i)) (msg : SRPPMessage) :
    ∃ r, (defaultPspPadAlgo env msg).run l = .ok r := by
  rcases defaultPspPadAlgo_run env l msg with ⟨extra, l', mem, i, hi, -, hrun⟩
  obtain ⟨bytes, hbytes⟩ := dummyBytes_ok mem (List.length_pos_iff.mpr (h i hi)).ne' extra
  rw [hbytes] at hrun
  exact ⟨_, hrun⟩

end Packet

/-! ## The limit in every mode -/

section Limit
variable {env : Env} (henv : env.ScalesUp) {l l' : Lib} (hlast : 0 ≤ l.padding.lastmaxbandwidth)
include henv hlast

/-- Only `ascend` changes the limit, for a packet above it. -/
theorem extraSize_raises {n extra : ℤ} (h : (extraSize env n).run l = .ok (extra, l')) :
    l.padding.lastmaxbandwidth ≤ l'.padding.lastmaxbandwidth := by
  rw [extraSize, run_get_bind] at h
  rcases run_bind_eq_ok h with ⟨e₁, l₁, hfirst, h⟩
  rcases run_bind_eq_ok h with ⟨e₂, l₂, hascent, h⟩
  have hbefore : l₁.padding = l.padding := by
    split_ifs at hfirst <;> cases hfirst <;> rfl
  have hbehind : l'.padding = l₂.padding := by
    split_ifs at h <;> cases h <;> rfl
  rw [hbehind, ← hbefore]
  split_ifs at hascent with hgradual hlarger
  · let a := srppRand n 1366 (env.rand l₁.tick)
    let b := srppRand a 1366 (env.rand (l₁.tick + 1))
    have hna := (srppRand_1366 n (env.rand l₁.tick)).1
    have hab := (srppRand_1366 a (env.rand (l₁.tick + 1))).1
    have hn : 0 < n := hlast.trans_lt hlarger
    cases hascent
    change l₁.padding.lastmaxbandwidth ≤ env.ascent n a b
    rw [hbefore]
    exact hlarger.le.trans (henv.le_ascent hn.le (hn.trans_le hna) hab)
  · cases hascent
    exact le_rfl
  · cases hascent
    exact le_rfl

/-- No operation on the cache lowers the limit. -/
theorem perform_raises {c : PaddingCall} {ms : List SRPPMessage}
    (h : (c.perform env).run l = .ok (ms, l')) :
    l.padding.lastmaxbandwidth ≤ l'.padding.lastmaxbandwidth := by
  cases c with
  | setPaddingOptions i =>
    cases h
    dsimp only
    split_ifs <;> exact le_rfl
  | pad msg =>
    rcases run_bind_eq_ok h with ⟨q, u, hpad, h⟩
    cases h
    obtain ⟨extra, bytes, l₁, hextra, -, -, -, -, hpadding⟩ := pad_cases env hpad
    have hlimit : l'.padding.lastmaxbandwidth = l₁.padding.lastmaxbandwidth := by
      rcases hpadding with hsame | ⟨i, payload, -, -, hentry⟩
      · rw [hsame]
      · rw [hentry]
        rfl
    rw [hlimit]
    exact extraSize_raises henv hlast hextra
  | addToDummyCache msg =>
    rcases run_bind_eq_ok h with ⟨_, u, hadd, h⟩
    cases h
    rcases addToDummyCache_run env l msg with ⟨i, payload, t, -, -, hrun⟩
    cases hadd.symm.trans hrun
    exact le_rfl
  | generateDummyData size =>
    rcases run_bind_eq_ok h with ⟨bytes, u, hdata, h⟩
    cases h
    rw [(generateDummyData_ok hdata).2.1]
  | generateAnyDummyPkt =>
    cases h
    exact le_rfl
  | generateDummyPkt size =>
    cases h
    exact le_rfl

end Limit

/-- Nor does any sequence of them after `init_SRPP`. -/
theorem AfterInit.limit {env : Env} (henv : env.ScalesUp) {allowed : Lib → PaddingCall → Bool} {l₀ : Lib}
    {s : Drawn} (hmax : 0 < l₀.maxpacketsize) (hlast : 0 ≤ l₀.padding.lastmaxbandwidth)
    (h : AfterInit env allowed l₀ s) :
    l₀.padding.lastmaxbandwidth ≤ s.lib.padding.lastmaxbandwidth := by
  rcases h with ⟨l, hinit, hrun⟩
  rcases initCache_run env l₀ hmax 99 le_rfl with ⟨l', cache, hrun', hpadding, -, -⟩
  cases hinit.symm.trans hrun'
  have hstart : l.padding.lastmaxbandwidth = l₀.padding.lastmaxbandwidth := by rw [hpadding]
  induction hrun with
  | refl => exact hstart.ge
  | tail _ hcall ih =>
    cases hcall with
    | call c _ hr => exact ih.trans (perform_raises henv (hlast.trans ih) hr)

/-! ## Many packets -/

/-- The library, and the packets it has padded so far, each with the limit behind it. -/
structure Ascent where
  lib : Lib
  packets : List (SRPPMessage × ℤ)

/-- A packet is padded, or something happens that leaves the modes and the limit. -/
inductive AscentStep (env : Env) (s : Ascent) : Ascent → Prop
  | pad {msg msg' : SRPPMessage} {l : Lib} (hrun : (defaultPspPadAlgo env msg).run s.lib = .ok (msg', l)) :
      AscentStep env s ⟨l, (msg', l.padding.lastmaxbandwidth) :: s.packets⟩
  | other {l : Lib} (hmode : OnlyGradual l.padding)
      (hlast : l.padding.lastmaxbandwidth = s.lib.padding.lastmaxbandwidth) :
      AscentStep env s ⟨l, s.packets⟩

/-- A packet keeps below the limit that it was padded under, with padding unless it fills it. -/
structure KeepsBelow (p : SRPPMessage × ℤ) : Prop where
  covered : payloadLength p.1 ≤ p.2
  below : payloadLength p.1 + paddingLength p.1 ≤ p.2
  some : payloadLength p.1 ≠ p.2 → 1 ≤ paddingLength p.1

/-- The limit covers every packet padded so far. -/
structure Covering (s : Ascent) : Prop where
  mode : OnlyGradual s.lib.padding
  start : 100 ≤ s.lib.padding.lastmaxbandwidth
  packets : ∀ p ∈ s.packets, KeepsBelow p ∧ p.2 ≤ s.lib.padding.lastmaxbandwidth

section Runs
variable {env : Env} (henv : env.ScalesUp)
include henv

/-- One step never lowers the limit, and keeps all packets covered. -/
theorem Covering.step {s s' : Ascent} (hs : Covering s) (h : AscentStep env s s') :
    Covering s' ∧ s.lib.padding.lastmaxbandwidth ≤ s'.lib.padding.lastmaxbandwidth := by
  have hstart := hs.start
  cases h with
  | pad hrun =>
    have hpad := defaultPspPadAlgo_gradual henv hs.mode (by omega) hrun
    refine ⟨⟨hpad.mode, hs.start.trans hpad.raised, fun p hp => ?_⟩, hpad.raised⟩
    rcases List.mem_cons.mp hp with rfl | hp
    · exact ⟨⟨hpad.covered, hpad.below, hpad.some⟩, le_rfl⟩
    · exact ⟨(hs.packets p hp).1, (hs.packets p hp).2.trans hpad.raised⟩
  | other hmode hlast =>
    refine ⟨⟨hmode, ?_, ?_⟩, hlast.ge⟩
    · rw [hlast]
      exact hs.start
    · rw [hlast]
      exact hs.packets

theorem Covering.run {s s' : Ascent} (hs : Covering s) (h : ReflTransGen (AscentStep env) s s') :
    Covering s' := by
  induction h with
  | refl => exact hs
  | tail _ hstep ih => exact (ih.step henv hstep).1

/-- However many packets are padded in gradual ascent alone, the limit never decreases, covers
every packet padded so far, and each packet was padded below it, with at least one byte unless
it filled it. Each call returns as long as the entries that can be drawn have a payload. -/
theorem gradualAscent_covers {l : Lib} {s : Ascent} (hmode : OnlyGradual l.padding)
    (hstart : l.padding.lastmaxbandwidth = 100) (h : ReflTransGen (AscentStep env) ⟨l, []⟩ s) :
    (∀ s', AscentStep env s s' →
      s.lib.padding.lastmaxbandwidth ≤ s'.lib.padding.lastmaxbandwidth) ∧
    (∀ p ∈ s.packets, payloadLength p.1 ≤ s.lib.padding.lastmaxbandwidth) ∧
    (∀ p ∈ s.packets, payloadLength p.1 + paddingLength p.1 ≤ p.2 ∧
      (payloadLength p.1 ≠ p.2 → 1 ≤ paddingLength p.1) ∧ p.2 ≤ s.lib.padding.lastmaxbandwidth) ∧
    ((∀ i : Fin 100, (i : ℕ) < 99 → HasPayload (s.lib.padding.dummyCache i)) →
      ∀ msg, ∃ r, (defaultPspPadAlgo env msg).run s.lib = .ok r) := by
  have hs : Covering s := Covering.run henv ⟨hmode, hstart.ge, by simp⟩ h
  refine ⟨fun s' hstep => (hs.step henv hstep).2, fun p hp => ?_, fun p hp => ?_,
    fun hcache msg => defaultPspPadAlgo_returns env s.lib hcache msg⟩
  · exact (hs.packets p hp).1.covered.trans (hs.packets p hp).2
  · exact ⟨(hs.packets p hp).1.below, (hs.packets p hp).1.some, (hs.packets p hp).2⟩

end Runs

/-- Exact quotients, and draws that are all five. -/
def fivesEnv : Env := { Env.constant 5 with ascent := fun n a b => (n * b).tdiv a }

/-- The library in gradual ascent alone, with equal entries of fifty bytes in its cache. -/
def gradualLib : Lib :=
  let l := Lib.start fivesEnv
  let msg := l.padding.dummyCache (indexOf 0)
  { l with padding := { l.padding with
      gradualAscentBandwidth := true
      dummyCache := fun _ => { msg with
        encryptedPart := { msg.encryptedPart with originalPayload := List.replicate 50 1 } } } }

/-- A packet of two hundred bytes raises the limit from 100 to 204, and one of three hundred bytes
raises it again. -/
theorem gradualAscent_covers_twice : ∃ s : Ascent, s.packets.length = 2 ∧
    (∃ p ∈ s.packets, p.2 = 204) ∧ 300 ≤ s.lib.padding.lastmaxbandwidth ∧
    ∀ p ∈ s.packets, payloadLength p.1 + paddingLength p.1 ≤ p.2 ∧
      p.2 ≤ s.lib.padding.lastmaxbandwidth := by
  let msg (n : ℕ) := createSrppMessage (gradualLib.fresh fivesEnv) (List.replicate n 1)
  have hcheck : endsIn (defaultPspPadAlgo fivesEnv (msg 200)) gradualLib
      (fun l => l.padding.lastmaxbandwidth == 204 &&
        endsIn (defaultPspPadAlgo fivesEnv (msg 300)) l
          (fun l' => decide (300 ≤ l'.padding.lastmaxbandwidth))) = true := by decide +kernel
  rcases endsIn_run hcheck with ⟨first, l, hfirst, hl⟩
  rw [Bool.and_eq_true, beq_iff_eq] at hl
  rcases endsIn_run hl.2 with ⟨second, l', hsecond, hlast⟩
  let s : Ascent :=
    ⟨l', [(second, l'.padding.lastmaxbandwidth), (first, l.padding.lastmaxbandwidth)]⟩
  have hrun : ReflTransGen (AscentStep fivesEnv) ⟨gradualLib, []⟩ s :=
    .tail (.single (.pad hfirst)) (.pad hsecond)
  have hcovers := gradualAscent_covers (Env.IsExact.scalesUp (fun _ _ _ => rfl))
    ⟨rfl, rfl, rfl, rfl⟩ rfl hrun
  have hlarge : 300 ≤ s.lib.padding.lastmaxbandwidth := of_decide_eq_true hlast
  refine ⟨s, rfl, ⟨(first, l.padding.lastmaxbandwidth), ?_, hl.1⟩, hlarge, fun p hp => ?_⟩
  · exact List.mem_cons_of_mem _ (List.mem_cons_self ..)
  rcases hcovers.2.2.1 p hp with ⟨hbelow, -, hle⟩
  exact ⟨hbelow, hle⟩

end Sqrkal.Library
