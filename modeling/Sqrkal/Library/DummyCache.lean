import Sqrkal.Library.PaddingSteps

/-! # The dummy cache over a run

Entries come from the constructor, from real packets and from earlier cuts. Without
gradual ascent none of these leaves an entry without payload, and in burst mode the
pad count of an entry is the number of its padding bytes. The signalling word is a
different matter: the constructor's entries keep whatever was in memory.
-/

namespace Sqrkal.Library
open Foundation Message

/-- What every entry of the cache satisfies. An entry with a signalling word was not made
from a packet, and has no padding and the constructor's payload type. -/
structure IsEntry (burst : Bool) (e : SRPPMessage) : Prop where
  cc : e.srppHeader.cc = 0#4
  payload : e.encryptedPart.originalPayload ≠ []
  dummyFlag : e.encryptedPart.dummyFlag = 1
  pt : e.srppHeader.srppSignalling ≠ 0 → e.srppHeader.pt ≠ 124
  unpadded : e.srppHeader.srppSignalling ≠ 0 → e.encryptedPart.srppPadding = []
  padCount : burst = true →
    e.encryptedPart.padCount = BitVec.ofNat 32 e.encryptedPart.srppPadding.length ∧
      e.encryptedPart.srppPadding.length < 10

/-- The padding state in a mode other than gradual ascent. -/
structure Drawable (p : Padding) : Prop where
  steady : p.gradualAscentBandwidth = false
  limit : p.lastmaxbandwidth = 100
  entry : ∀ i : Fin 100, (i : ℕ) < 99 → IsEntry p.isBurstPadding (p.dummyCache i)

/-- The modes, which only `set_options` changes. -/
structure SameModes (p p' : Padding) : Prop where
  full : p'.isFullBandwidth = p.isFullBandwidth
  gradual : p'.gradualAscentBandwidth = p.gradualAscentBandwidth
  burst : p'.isBurstPadding = p.isBurstPadding
  perturbation : p'.isSmallPerturbation = p.isSmallPerturbation

/-! ## Steps -/

section Steps
variable {p p' : Padding}

theorem PaddingStep.sameModes (h : PaddingStep p p') : SameModes p p' := by
  cases h <;> exact ⟨rfl, rfl, rfl, rfl⟩

theorem Cacheable.isEntry {e : SRPPMessage} (h : Cacheable p e) : IsEntry p.isBurstPadding e := by
  rcases h.padCount with ⟨extra, hcount, hlen, hburst⟩
  refine ⟨h.cc, h.payload, h.dummyFlag, fun hs => absurd h.signalling hs,
    fun hs => absurd h.signalling hs, fun hb => ?_⟩
  rcases hburst hb with ⟨hnonneg, hsmall⟩
  have hextra : extra = (extra.toNat : ℤ) := by omega
  rw [hcount, hlen]
  refine ⟨?_, by omega⟩
  conv_lhs => rw [hextra]
  exact BitVec.ofInt_ofNat _ _

/-- A drawn size is at least a hundred bytes. -/
theorem burstSize_bounds (draw : ℕ) : 100 ≤ srppRand 100 100 draw ∧ srppRand 100 100 draw < 200 := by
  rw [srppRand_eq (by decide), Int.tmod_eq_emod_of_nonneg (Int.natCast_nonneg _)]
  omega

/-- Cutting an entry to a positive size leaves an entry. -/
theorem IsEntry.asDummy {burst : Bool} {e : SRPPMessage} (h : IsEntry burst e) {size : ℤ}
    (hsize : 0 < size) (seq : ℤ) : IsEntry burst (asDummy size seq e) := by
  have hpos : 0 < e.encryptedPart.originalPayload.length := List.length_pos_iff.mpr h.payload
  -- the fields that cutting decides on
  suffices hcut : (cutTo size e.encryptedPart).originalPayload ≠ [] ∧
      (cutTo size e.encryptedPart).dummyFlag = 1 ∧
      (e.srppHeader.srppSignalling ≠ 0 → (cutTo size e.encryptedPart).srppPadding = []) ∧
      (burst = true → (cutTo size e.encryptedPart).padCount =
          BitVec.ofNat 32 (cutTo size e.encryptedPart).srppPadding.length ∧
        (cutTo size e.encryptedPart).srppPadding.length < 10) from
    ⟨h.cc, hcut.1, hcut.2.1, h.pt, hcut.2.2.1, hcut.2.2.2⟩
  unfold cutTo
  dsimp only
  split_ifs with hpay hpad
  · refine ⟨?_, h.dummyFlag, fun _ => rfl, fun _ => ⟨rfl, Nat.succ_pos 9⟩⟩
    rw [← List.length_pos_iff, List.length_take]
    omega
  · refine ⟨h.payload, h.dummyFlag, fun hs => ?_, fun hb => ?_⟩
    · rw [h.unpadded hs, List.take_nil]
    · rcases h.padCount hb with ⟨-, hlen⟩
      have hcount : (size - e.encryptedPart.originalPayload.length : ℤ) =
          ((size - e.encryptedPart.originalPayload.length).toNat : ℤ) := by omega
      rw [List.length_take, min_eq_left (by omega)]
      refine ⟨?_, by omega⟩
      conv_lhs => rw [hcount]
      exact BitVec.ofInt_ofNat _ _
  · exact ⟨h.payload, h.dummyFlag, h.unpadded, h.padCount⟩

theorem Drawable.setEntry (h : Drawable p) (i : Fin 100) {e : SRPPMessage}
    (he : IsEntry p.isBurstPadding e) : Drawable (p.setEntry i e) := by
  refine ⟨h.steady, h.limit, fun j hj => ?_⟩
  change IsEntry p.isBurstPadding (Function.update p.dummyCache i e j)
  rw [Function.update_apply]
  split_ifs
  · exact he
  · exact h.entry j hj

theorem Drawable.step (h : Drawable p) (hs : PaddingStep p p') : Drawable p' := by
  cases hs with
  | same => exact h
  | insert i e hi he => exact h.setEntry i he.isEntry
  | cut i draw seq hi =>
    refine h.setEntry i ((h.entry i hi).asDummy ?_ seq)
    rw [h.limit]
    have := (burstSize_bounds draw).1
    omega
  | ascend n hg => exact absurd (h.steady.symm.trans hg) (by decide)
  | count n => exact ⟨h.steady, h.limit, h.entry⟩

end Steps

/-! ## The start -/

section Start
variable (env : Env)

/-- A constructed entry, of at least one byte. -/
theorem initialDummy_run (l : Lib) (hmax : 0 < l.maxpacketsize) : ∃ msg l',
    (initialDummy env).run l = .ok (msg, l') ∧ l'.padding = l.padding ∧
      l'.maxpacketsize = l.maxpacketsize ∧ ∀ burst, IsEntry burst msg := by
  let size := srppRand 1 l.maxpacketsize (env.rand (l.tick + 1))
  obtain ⟨bytes, t, hbytes, hlen⟩ := randomBytes_run env l.constructed.ticked size.toNat
  have hsize : 0 < size := by
    have hmod := Int.emod_nonneg (env.rand (l.tick + 1)) hmax.ne'
    change 0 < srppRand _ _ _
    rw [srppRand_eq hmax.ne', Int.tmod_eq_emod_of_nonneg (Int.natCast_nonneg _)]
    omega
  have hpt : (121 : BitVec 7) ≠ 124 := by decide
  rw [initialDummy, run_bind_ok (nextFresh_run l env), run_get_bind,
    run_bind_ok (rand_run _ env _ _)]
  change ∃ msg l', (randomBytes env size.toNat >>= _).run l.constructed.ticked = .ok (msg, l') ∧ _
  rw [run_bind_ok hbytes]
  refine ⟨_, _, rfl, rfl, rfl, fun burst =>
    ⟨rfl, ?_, rfl, fun _ => hpt, fun _ => rfl, fun _ => ⟨rfl, Nat.succ_pos 9⟩⟩⟩
  rw [← List.length_pos_iff]
  change 0 < bytes.length
  omega

/-- The constructor fills the entries below its bound. -/
theorem initCache_run (l : Lib) (hmax : 0 < l.maxpacketsize) (n : ℕ) (hn : n ≤ 99) : ∃ l' cache,
    (initCache env n).run l = .ok ((), l') ∧ l'.padding = { l.padding with dummyCache := cache } ∧
      l'.maxpacketsize = l.maxpacketsize ∧
      ∀ i : Fin 100, (i : ℕ) < n → ∀ burst, IsEntry burst (cache i) := by
  induction n with
  | zero => exact ⟨l, l.padding.dummyCache, rfl, rfl, rfl, fun i hi => absurd hi (Nat.not_lt_zero _)⟩
  | succ n ih =>
    rcases ih (by omega) with ⟨l₁, cache, hrun, hpad, hsize, hentry⟩
    rcases initialDummy_run env l₁ (hsize ▸ hmax) with ⟨msg, l₂, hmsg, hpad₂, hsize₂, hnew⟩
    rw [initCache, run_bind_ok hrun, run_bind_ok hmsg]
    refine ⟨_, Function.update cache (Fin.ofNat 100 n) msg, rfl, ?_, hsize₂.trans hsize, ?_⟩
    · change ({ l₂.padding with
        dummyCache := Function.update l₂.padding.dummyCache (Fin.ofNat 100 n) msg } : Padding) = _
      rw [hpad₂, hpad]
    · intro i hi burst
      rw [Function.update_apply]
      split_ifs with heq
      · exact hnew burst
      · refine hentry i ?_ burst
        have hne : (i : ℕ) ≠ n := fun h => heq (Fin.ext (by rw [h, Fin.val_ofNat]; omega))
        omega

/-- `init_SRPP` makes every entry that can be drawn a dummy with some payload. -/
theorem initSrpp_run (l : Lib) (hmax : 0 < l.maxpacketsize) (hlimit : l.padding.lastmaxbandwidth = 100) :
    ∃ l', (initSrpp env).run l = .ok ((), l') ∧ SameModes l.padding l'.padding ∧
      (l.padding.gradualAscentBandwidth = false → Drawable l'.padding) := by
  rcases initCache_run env l hmax 99 le_rfl with ⟨l', cache, hrun, hpad, -, hentry⟩
  refine ⟨l', hrun, ?_, ?_⟩
  · rw [hpad]
    exact ⟨rfl, rfl, rfl, rfl⟩
  · intro hsteady
    rw [hpad]
    exact ⟨hsteady, hlimit, fun i hi => hentry i hi _⟩

end Start

end Sqrkal.Library
