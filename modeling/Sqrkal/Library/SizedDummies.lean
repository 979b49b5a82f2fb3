import Sqrkal.Library.CacheInvariants

/-! # Dummies of a given size

`generate_dummy_pkt(size)` cuts the entry it draws in place: padding goes before payload,
and what is left has the size asked for, or the size it had if that was smaller. So an entry
that no insertion replaces can only get shorter.
-/

namespace Sqrkal.Library
open Foundation Message Relation

/-- The number of bytes of an entry that a dummy sends. -/
def totalLength (e : SRPPMessage) : ℕ :=
  e.encryptedPart.originalPayload.length + e.encryptedPart.srppPadding.length

/-- `pad_count = srpp_padding.size()`. -/
def CountIsSize (e : SRPPMessage) : Prop :=
  e.encryptedPart.padCount.toNat = e.encryptedPart.srppPadding.length

/-- A message that is another one cut to a size. -/
structure IsCut (size : ℤ) (old new : SRPPMessage) : Prop where
  total : (totalLength new : ℤ) = min size (totalLength old)
  payload : new.encryptedPart.originalPayload <+: old.encryptedPart.originalPayload
  padding : new.encryptedPart.srppPadding <+: old.encryptedPart.srppPadding
  count : CountIsSize new
  dummyFlag : new.encryptedPart.dummyFlag = old.encryptedPart.dummyFlag

/-! ## One dummy -/

section Cut
variable {size : ℤ} {e : SRPPEncrypted}

theorem cutTo_payload_prefix (size : ℤ) (e : SRPPEncrypted) :
    (cutTo size e).originalPayload <+: e.originalPayload := by
  unfold cutTo
  dsimp only
  split_ifs
  · exact List.take_prefix _ _
  · exact List.prefix_rfl
  · exact List.prefix_rfl

theorem cutTo_padding_prefix (size : ℤ) (e : SRPPEncrypted) :
    (cutTo size e).srppPadding <+: e.srppPadding := by
  unfold cutTo
  dsimp only
  split_ifs
  · exact List.nil_prefix
  · exact List.take_prefix _ _
  · exact List.prefix_rfl

/-- Payload and padding together get the size, or keep the one they have. -/
theorem cutTo_length (hsize : 0 ≤ size) :
    (((cutTo size e).originalPayload.length + (cutTo size e).srppPadding.length : ℕ) : ℤ) =
      min size (e.originalPayload.length + e.srppPadding.length : ℕ) := by
  unfold cutTo
  dsimp only
  split_ifs
  · simp only [List.length_take, List.length_nil]
    omega
  · simp only [List.length_take]
    omega
  · omega

/-- The count stays the number of padding bytes in all three cases. -/
theorem cutTo_count (hcount : e.padCount.toNat = e.srppPadding.length) :
    (cutTo size e).padCount.toNat = (cutTo size e).srppPadding.length := by
  unfold cutTo
  dsimp only
  split_ifs with hpay hpad
  · rfl
  · have hlt := e.padCount.isLt
    have hrest : 0 ≤ size - e.originalPayload.length := by omega
    have hword : size - e.originalPayload.length = ((size - e.originalPayload.length).toNat : ℕ) := by
      omega
    rw [hword, BitVec.ofInt_natCast, BitVec.toNat_ofNat, Int.toNat_natCast, List.length_take,
      Nat.mod_eq_of_lt (by omega)]
    omega
  · exact hcount

theorem isCut_asDummy (hsize : 0 ≤ size) (seq : ℤ) {old : SRPPMessage} (hcount : CountIsSize old) :
    IsCut size old (asDummy size seq old) where
  total := cutTo_length hsize
  payload := cutTo_payload_prefix size _
  padding := cutTo_padding_prefix size _
  count := cutTo_count hcount
  dummyFlag := by
    change (cutTo size old.encryptedPart).dummyFlag = _
    unfold cutTo
    dsimp only
    split_ifs <;> rfl

end Cut

/-! ## Sequences of operations -/

/-- All operations that put no other message into the cache. -/
def insertsNothing : Lib → PaddingCall → Bool
  | _, .pad _ => false
  | _, .addToDummyCache _ => false
  | _, .generateDummyPkt size => decide (0 ≤ size)
  | _, _ => true

/-- Dummies of given sizes, and operations that only read the cache. -/
def cutsOnly : Lib → PaddingCall → Bool
  | _, .generateAnyDummyPkt => false
  | l, c => insertsNothing l c

theorem trimmed_length_le (e : SRPPEncrypted) :
    (trimmed e).originalPayload.length + (trimmed e).srppPadding.length ≤
      e.originalPayload.length + e.srppPadding.length := by
  unfold trimmed
  split_ifs
  · simp only [List.length_take]
    omega
  · exact le_rfl

section Sequences
variable {env : Env}

/-- What such an operation writes is no longer than the entry it replaces. -/
theorem replaces_totalLength {l : Lib} {c : PaddingCall} {i : Fin 100} {e : SRPPMessage}
    {ms : List SRPPMessage} (ha : insertsNothing l c = true) (h : Replaces env l c i e ms) :
    totalLength e ≤ totalLength (l.padding.dummyCache i) := by
  cases h with
  | padded msg i extra padding payload => cases ha
  | added msg i payload => cases ha
  | trimmed seq => exact trimmed_length_le _
  | cut size seq =>
    have hsize : 0 ≤ size := of_decide_eq_true ha
    have hlen := cutTo_length (e := (l.padding.dummyCache (indexOf (env.rand l.tick))).encryptedPart) hsize
    change (cutTo size _).originalPayload.length + (cutTo size _).srppPadding.length ≤
      (l.padding.dummyCache _).encryptedPart.originalPayload.length +
        (l.padding.dummyCache _).encryptedPart.srppPadding.length
    omega

/-- One operation lengthens no entry. -/
theorem step_totalLength {s s' : Drawn} (h : CallStep env insertsNothing s s') (i : Fin 100) :
    totalLength (s'.lib.padding.dummyCache i) ≤ totalLength (s.lib.padding.dummyCache i) := by
  cases h with
  | call c ha hrun =>
    rcases (perform_ok hrun).1 with ⟨hcache, -⟩ | ⟨j, e, hrep, hcache⟩
    · simp [hcache]
    · dsimp only
      rw [hcache, Function.update_apply]
      split_ifs with hij
      · rw [hij]
        exact replaces_totalLength ha hrep
      · exact le_rfl

theorem run_totalLength {s s' : Drawn} (h : ReflTransGen (CallStep env insertsNothing) s s')
    (i : Fin 100) :
    totalLength (s'.lib.padding.dummyCache i) ≤ totalLength (s.lib.padding.dummyCache i) := by
  induction h with
  | refl => exact le_rfl
  | tail _ hstep ih => exact (step_totalLength hstep i).trans ih

/-- Cutting keeps the count of the entry right. -/
theorem replaces_countIsSize {l : Lib} {c : PaddingCall} {i : Fin 100} {e : SRPPMessage}
    {ms : List SRPPMessage} (ha : cutsOnly l c = true) (h : Replaces env l c i e ms)
    (hl : ∀ j : Fin 100, True → CountIsSize (l.padding.dummyCache j)) :
    CountIsSize e ∧ ∀ m ∈ ms, CountIsSize m := by
  cases h with
  | padded msg i extra padding payload => cases ha
  | added msg i payload => cases ha
  | trimmed seq => cases ha
  | cut size seq =>
    have hsize : 0 ≤ size := of_decide_eq_true ha
    have hcut := (isCut_asDummy hsize seq (hl (indexOf (env.rand l.tick)) trivial)).count
    exact ⟨hcut, by simpa using hcut⟩

/-- A dummy of a given size is the drawn entry, cut to that size in place: no other entry
changes. Any number of such cuts keeps the pad counts, and without insertions no entry ever
gets longer. -/
theorem generateDummyPkt_cuts (env : Env) (l : Lib)
    (hcount : ∀ i, CountIsSize (l.padding.dummyCache i)) :
    (∀ size : ℤ, 0 ≤ size → ∃ (i : Fin 100) (msg : SRPPMessage) (l' : Lib),
      i = indexOf (env.rand l.tick) ∧ (generateDummyPkt env size).run l = .ok (msg, l') ∧
      IsCut size (l.padding.dummyCache i) msg ∧
      l'.padding.dummyCache = Function.update l.padding.dummyCache i msg) ∧
    (∀ s, ReflTransGen (CallStep env cutsOnly) ⟨l, []⟩ s →
      ∀ i, CountIsSize (s.lib.padding.dummyCache i)) ∧
    ∀ s, ReflTransGen (CallStep env insertsNothing) ⟨l, []⟩ s →
      ∀ i, totalLength (s.lib.padding.dummyCache i) ≤ totalLength (l.padding.dummyCache i) := by
  refine ⟨fun size hsize => ?_, fun s hrun i => ?_, fun s hrun => run_totalLength hrun⟩
  · exact ⟨_, _, _, rfl, rfl, isCut_asDummy hsize _ (hcount _), rfl⟩
  · have hkept (l c i e ms) (ha : cutsOnly l c = true) (hrep : Replaces env l c i e ms) :=
      replaces_countIsSize ha hrep
    exact (run_entries (fun _ => True) hkept hrun (fun j _ => hcount j) (by simp)).1 i trivial

/-- A cache of equal entries, with sixty bytes of payload and ten of padding. -/
def seventyBytes : Lib :=
  let l := Lib.start (Env.constant 7)
  let msg := l.padding.dummyCache (indexOf 0)
  { l with padding := { l.padding with dummyCache := fun _ => { msg with
      encryptedPart := { msg.encryptedPart with
        originalPayload := List.replicate 60 1, srppPadding := List.replicate 10 2, padCount := 10 } } } }

/-- Five bytes of padding go, and the other entries stay. -/
theorem generateDummyPkt_cuts_seventy :
    ∃ msg l', (generateDummyPkt (Env.constant 7) 65).run seventyBytes = .ok (msg, l') ∧
      totalLength msg = 65 ∧ msg.encryptedPart.originalPayload = List.replicate 60 1 ∧
      ∀ i, i ≠ indexOf 7 → l'.padding.dummyCache i = seventyBytes.padding.dummyCache i := by
  rcases (generateDummyPkt_cuts (Env.constant 7) seventyBytes (fun i => rfl)).1 65 (by decide) with
    ⟨i, msg, l', rfl, hrun, hcut, hcache⟩
  refine ⟨msg, l', hrun, ?_, ?_, fun j hj => ?_⟩
  · have htotal := hcut.total
    rw [show totalLength (seventyBytes.padding.dummyCache _) = 70 from rfl] at htotal
    omega
  · cases hrun
    rfl
  · rw [hcache]
    exact Function.update_of_ne hj _ _

end Sequences

end Sqrkal.Library
