import Sqrkal.Library.CacheCalls

/-! # Two invariants of the dummy cache

An entry that can be drawn never loses all of its payload, so the loop of
`generate_dummy_data`, which reads one entry over and over, always makes progress. The
pad count of an entry is the number of its padding bytes as long as two things do not
happen: a payload of more than 1366 bytes in full bandwidth mode, for which the count is
negative, and a padded entry of more than 1200 bytes in `generate_dummy_pkt()`, which
shortens the padding and leaves the count.
-/

namespace Sqrkal.Library
open Foundation Message Relation

/-! ## The loop of `generate_dummy_data` -/

section Loop
variable (mem : Mem) (n : ℕ) (size : ℤ)

/-- One round: the number of bytes received and the bytes. -/
def dataRound (s : ℤ × List Byte) : ℤ × List Byte :=
  let packetSize : ℤ := if (n : ℤ) > size - s.1 then size - s.1 else n
  (s.1 + packetSize, s.2 ++ mem.read 0 packetSize.toNat)

/-- The loop is left after some rounds, with these bytes. -/
def LoopEnds (bytes : List Byte) : Prop :=
  ∃ k, (∀ j < k, ((dataRound mem n size)^[j] (0, [])).1 < size) ∧
    size ≤ ((dataRound mem n size)^[k] (0, [])).1 ∧ ((dataRound mem n size)^[k] (0, [])).2 = bytes

/-- From `received` bytes on, as many rounds are made as the rest needs. -/
theorem dataRound_rest (hn : 0 < n) (rounds remaining : ℕ) (h : remaining ≤ rounds) (received : ℤ)
    (hsize : size = received + remaining) (acc : List Byte) :
    ∃ k, (∀ j < k, ((dataRound mem n size)^[j] (received, acc)).1 < size) ∧
      (dataRound mem n size)^[k] (received, acc) = (size, acc ++ dummyRounds mem n rounds remaining) := by
  induction rounds generalizing remaining received acc with
  | zero =>
    obtain rfl : remaining = 0 := by omega
    refine ⟨0, fun j hj => absurd hj (Nat.not_lt_zero j), ?_⟩
    simp [dummyRounds, hsize]
  | succ rounds ih =>
    cases remaining with
    | zero =>
      refine ⟨0, fun j hj => absurd hj (Nat.not_lt_zero j), ?_⟩
      simp [dummyRounds, hsize]
    | succ r =>
      have hround : dataRound mem n size (received, acc) =
          (received + (min n (r + 1) : ℕ), acc ++ mem.read 0 (min n (r + 1))) := by
        have hpacket : (if (n : ℤ) > size - received then size - received else (n : ℤ)) =
            ((min n (r + 1) : ℕ) : ℤ) := by
          split_ifs <;> omega
        simp only [dataRound, hpacket, Int.toNat_natCast]
      rcases ih (r + 1 - min n (r + 1)) (by omega) (received + (min n (r + 1) : ℕ)) (by omega)
        (acc ++ mem.read 0 (min n (r + 1))) with ⟨k, hk, hend⟩
      refine ⟨k + 1, fun j hj => ?_, ?_⟩
      · cases j with
        | zero =>
          change received < size
          omega
        | succ j =>
          rw [Function.iterate_succ_apply, hround]
          exact hk j (by omega)
      · rw [Function.iterate_succ_apply, hround, hend, List.append_assoc]
        rfl

variable {mem n size}

/-- An empty entry is read for ever. -/
theorem dataRound_empty (h : 0 < size) (k : ℕ) : (dataRound mem 0 size)^[k] (0, []) = (0, []) := by
  induction k with
  | zero => rfl
  | succ k ih =>
    rw [Function.iterate_succ_apply', ih]
    simp [dataRound, not_lt.mpr h.le, Mem.read]

theorem LoopEnds.unique {bytes bytes' : List Byte} (h : LoopEnds mem n size bytes)
    (h' : LoopEnds mem n size bytes') : bytes = bytes' := by
  rcases h with ⟨k, hk, hend, rfl⟩
  rcases h' with ⟨k', hk', hend', rfl⟩
  rcases lt_trichotomy k k' with hlt | rfl | hlt
  · exact absurd (hk' k hlt) (not_lt.mpr hend)
  · rfl
  · exact absurd (hk k' hlt) (not_lt.mpr hend')

/-- The model of the loop is what its rounds do. -/
theorem loopEnds_iff (mem : Mem) (n : ℕ) (size : ℤ) (bytes : List Byte) :
    LoopEnds mem n size bytes ↔ dummyBytes mem n size = .ok bytes := by
  by_cases hs : size ≤ 0
  · have hnone : LoopEnds mem n size [] := ⟨0, fun j hj => absurd hj (Nat.not_lt_zero j), hs, rfl⟩
    rw [dummyBytes, if_pos hs, Except.ok.injEq]
    exact ⟨fun h => hnone.unique h, fun h => h ▸ hnone⟩
  by_cases hn : n = 0
  · subst hn
    rw [dummyBytes, if_neg hs, if_pos rfl]
    constructor
    · rintro ⟨k, -, hend, -⟩
      rw [dataRound_empty (not_le.mp hs)] at hend
      exact absurd hend hs
    · intro h
      cases h
  · have hend : LoopEnds mem n size (dummyRounds mem n size.toNat size.toNat) := by
      obtain ⟨k, hk, hr⟩ := dataRound_rest mem n size (by omega) size.toNat size.toNat le_rfl 0
        (by omega) []
      exact ⟨k, hk, by rw [hr], by rw [hr, List.nil_append]⟩
    rw [dummyBytes, if_neg hs, if_neg hn, Except.ok.injEq]
    exact ⟨fun h => hend.unique h, fun h => h ▸ hend⟩

end Loop

/-! ## Entries with payload -/

/-- All operations but `generate_dummy_pkt()`, and dummies of at least one byte. -/
def keepsPayload : Lib → PaddingCall → Bool
  | _, .generateAnyDummyPkt => false
  | _, .generateDummyPkt size => decide (1 ≤ size)
  | _, _ => true

/-- There is something to read in the entry. -/
def HasPayload (e : SRPPMessage) : Prop := e.encryptedPart.originalPayload ≠ []

section Payload
variable {env : Env} {l₀ : Lib} {s : Drawn}

theorem cutTo_payload {size : ℤ} {e : SRPPEncrypted} (hsize : 1 ≤ size) (h : e.originalPayload ≠ []) :
    (cutTo size e).originalPayload ≠ [] := by
  have hpos : 0 < e.originalPayload.length := List.length_pos_iff.mpr h
  unfold cutTo
  dsimp only
  split_ifs
  · rw [← List.length_pos_iff, List.length_take]
    omega
  · exact h
  · exact h

theorem replaces_payload {l : Lib} {c : PaddingCall} {i : Fin 100} {e : SRPPMessage}
    {ms : List SRPPMessage} (ha : keepsPayload l c = true) (h : Replaces env l c i e ms)
    (hl : ∀ j : Fin 100, (j : ℕ) < 99 → HasPayload (l.padding.dummyCache j)) :
    HasPayload e ∧ ∀ m ∈ ms, HasPayload m := by
  cases h with
  | padded msg i extra padding payload hi hpayload => exact ⟨hpayload, by simp⟩
  | added msg i payload hi hpayload => exact ⟨hpayload, by simp⟩
  | trimmed seq => cases ha
  | cut size seq =>
    have hcut : HasPayload (asDummy size seq (l.padding.dummyCache (indexOf (env.rand l.tick)))) :=
      cutTo_payload (of_decide_eq_true ha) (hl _ (indexOf_lt _))
    exact ⟨hcut, by simpa using hcut⟩

/-- Every entry that can be drawn has some payload. -/
theorem AfterInit.hasPayload (hmax : 0 < l₀.maxpacketsize) (h : AfterInit env keepsPayload l₀ s) :
    ∀ i : Fin 100, (i : ℕ) < 99 → HasPayload (s.lib.padding.dummyCache i) := by
  rcases h with ⟨l, hinit, hrun⟩
  rcases initCache_run env l₀ hmax 99 le_rfl with ⟨l', cache, hrun', hpadding, -, hentry⟩
  cases hinit.symm.trans hrun'
  refine (run_entries (fun i => (i : ℕ) < 99) (fun l c i e ms ha hr hl => replaces_payload ha hr hl)
    hrun (fun i hi => ?_) (by simp)).1
  change HasPayload (l.padding.dummyCache i)
  rw [hpadding]
  exact (hentry i hi false).payload

/-- After `init_SRPP` and any such operations, every entry at an index that can be drawn
has some payload, so the loop of `generate_dummy_data` ends whatever it has drawn, and
returns as many bytes as were asked for. -/
theorem generateDummyData_exact (hmax : 0 < l₀.maxpacketsize) (h : AfterInit env keepsPayload l₀ s) :
    (∀ draw, (s.lib.padding.dummyCache (indexOf draw)).encryptedPart.originalPayload ≠ []) ∧
    ∀ size : ℤ,
      (∀ draw mem, ∃ bytes, LoopEnds mem
        (s.lib.padding.dummyCache (indexOf draw)).encryptedPart.originalPayload.length size bytes) ∧
      ∃ bytes l', (generateDummyData env size).run s.lib = .ok (bytes, l') ∧
        (bytes.length : ℤ) = max size 0 := by
  have hentry := h.hasPayload hmax
  have hdraw (draw : ℕ) :
      (s.lib.padding.dummyCache (indexOf draw)).encryptedPart.originalPayload ≠ [] :=
    hentry _ (indexOf_lt draw)
  refine ⟨hdraw, fun size => ⟨fun draw mem => ?_, ?_⟩⟩
  · obtain ⟨bytes, hbytes⟩ := dummyBytes_ok mem (List.length_pos_iff.mpr (hdraw draw)).ne' size
    exact ⟨bytes, (loopEnds_iff _ _ _ _).mpr hbytes⟩
  · rcases generateDummyData_run env s.lib size with ⟨i, hi, hrun⟩
    obtain ⟨bytes, hbytes⟩ := dummyBytes_ok (env.junk (s.lib.tick + 2))
      (List.length_pos_iff.mpr (hentry i hi)).ne' size
    refine ⟨bytes, _, hrun.trans (run_lift_ok hbytes _), ?_⟩
    rw [dummyBytes_length hbytes]
    omega

end Payload

/-- Two dummies are drawn, a packet is padded and put into the cache. -/
def someCalls : List PaddingCall :=
  [.generateDummyPkt 1, .pad (SRPPMessage.new ⟨1, 0, 19, 0⟩), .generateDummyPkt 200]

theorem generateDummyData_exact_calls : ∃ s,
    AfterInit (Env.constant 0) keepsPayload (Lib.start (Env.constant 0)) s ∧ s.dummies.length = 2 ∧
      ∃ bytes l', (generateDummyData (Env.constant 0) 500).run s.lib = .ok (bytes, l') ∧
        (bytes.length : ℤ) = max 500 0 := by
  have hcheck : callsEnd (Env.constant 0) keepsPayload (Lib.start (Env.constant 0)) someCalls
      (fun s => s.dummies.length == 2) = true := by decide +kernel
  rcases callsEnd_afterInit hcheck with ⟨s, hs, hlen⟩
  exact ⟨s, hs, by simpa using hlen, ((generateDummyData_exact (by decide) hs).2 500).2⟩

/-! ## Entries that count their padding -/

/-- Any options, any message, dummies of any size or of none in particular. -/
def anyPadding : Lib → PaddingCall → Bool
  | _, .addToDummyCache _ => false
  | _, .generateDummyPkt size => decide (0 ≤ size)
  | _, _ => true

/-- In full bandwidth mode no payload is longer than 1366 bytes, and `generate_dummy_pkt()`
draws no padded entry of more than 1200 bytes. -/
def keepsCount (env : Env) : Lib → PaddingCall → Bool
  | l, .pad msg => !(onlyFull l.padding && decide (1366 < msg.encryptedPart.originalPayload.length))
  | l, .generateAnyDummyPkt =>
    let e := (l.padding.dummyCache (indexOf (env.rand l.tick))).encryptedPart
    decide (e.srppPadding = [] ∨ e.originalPayload.length + e.srppPadding.length ≤ 1200)
  | l, c => anyPadding l c

section Count
variable {env : Env} {l₀ : Lib} {s : Drawn}

theorem ofInt_of_nonneg {z : ℤ} (h : 0 ≤ z) : BitVec.ofInt 32 z = BitVec.ofNat 32 z.toNat := by
  conv_lhs => rw [← Int.toNat_of_nonneg h]
  exact BitVec.ofInt_ofNat _ _

theorem cutTo_counts {size : ℤ} {e : SRPPEncrypted}
    (h : e.padCount = BitVec.ofNat 32 e.srppPadding.length) :
    (cutTo size e).padCount = BitVec.ofNat 32 (cutTo size e).srppPadding.length := by
  unfold cutTo
  dsimp only
  split_ifs with hpay hpad
  · rfl
  · rw [ofInt_of_nonneg (by omega), List.length_take, min_eq_left (by omega)]
  · exact h

theorem trimmed_counts {e : SRPPEncrypted} (h : e.padCount = BitVec.ofNat 32 e.srppPadding.length)
    (hsmall : e.srppPadding = [] ∨ e.originalPayload.length + e.srppPadding.length ≤ 1200) :
    (trimmed e).padCount = BitVec.ofNat 32 (trimmed e).srppPadding.length := by
  unfold trimmed
  split_ifs with hlong
  · rcases hsmall with hnone | hshort
    · rw [h, hnone]
      rfl
    · omega
  · exact h

theorem replaces_counts {l : Lib} {c : PaddingCall} {i : Fin 100} {e : SRPPMessage}
    {ms : List SRPPMessage} (ha : keepsCount env l c = true) (h : Replaces env l c i e ms)
    (hl : ∀ j, CountsPadding (l.padding.dummyCache j)) :
    CountsPadding e ∧ ∀ m ∈ ms, CountsPadding m := by
  cases h with
  | padded msg i extra padding payload hi hpayload hlen hextra =>
    refine ⟨?_, by simp⟩
    have hnonneg : 0 ≤ extra := by
      rcases hextra with hn | ⟨hfull, rfl⟩
      · exact hn
      · have hshort : msg.encryptedPart.originalPayload.length ≤ 1366 := by
          simpa [keepsCount, hfull] using ha
        omega
    change BitVec.ofInt 32 extra = BitVec.ofNat 32 padding.length
    rw [hlen, ofInt_of_nonneg hnonneg]
  | added msg i payload hi hpayload => cases ha
  | trimmed seq =>
    have ht : CountsPadding (asTrimmed seq (l.padding.dummyCache (indexOf (env.rand l.tick)))) :=
      trimmed_counts (hl _) (of_decide_eq_true ha)
    exact ⟨ht, by simpa using ht⟩
  | cut size seq =>
    have hc : CountsPadding (asDummy size seq (l.padding.dummyCache (indexOf (env.rand l.tick)))) :=
      cutTo_counts (hl _)
    exact ⟨hc, by simpa using hc⟩

theorem initCache_counts {n : ℕ} {l l' : Lib} (h : (initCache env n).run l = .ok ((), l'))
    (hl : ∀ j, CountsPadding (l.padding.dummyCache j)) :
    ∀ j, CountsPadding (l'.padding.dummyCache j) := by
  induction n generalizing l' with
  | zero =>
    cases h
    exact hl
  | succ n ih =>
    rcases run_bind_eq_ok h with ⟨_, l₁, h₁, h⟩
    rcases run_bind_eq_ok h with ⟨msg, l₂, hmsg, h⟩
    cases h
    rcases initialDummy_ok hmsg with ⟨hcount, hpadding, -⟩
    intro j
    change CountsPadding (Function.update l₂.padding.dummyCache (Fin.ofNat 100 n) msg j)
    rw [Function.update_apply, hpadding]
    split_ifs
    · exact hcount
    · exact ih h₁ j

/-- The static array holds messages as they are constructed. -/
theorem start_counts (env : Env) (j : Fin 100) :
    CountsPadding ((Lib.start env).padding.dummyCache j) := rfl

/-- In every sequence of operations that meets the condition, from a cache that counts its padding,
every entry and every dummy that has been returned counts its padding. -/
theorem entries_count_of_keepsCount (hstart : ∀ i, CountsPadding (l₀.padding.dummyCache i))
    (h : AfterInit env (keepsCount env) l₀ s) :
    (∀ i, CountsPadding (s.lib.padding.dummyCache i)) ∧ ∀ m ∈ s.dummies, CountsPadding m := by
  rcases h with ⟨l, hinit, hrun⟩
  have hl := initCache_counts hinit hstart
  have hall := run_entries (fun _ => True)
    (fun l c i e ms ha hr hl => replaces_counts ha hr fun j => hl j trivial) hrun
    (fun j _ => hl j) (by simp)
  exact ⟨fun i => hall.1 i trivial, hall.2⟩

end Count

/-- A message of 1367 bytes. -/
def longMessage : SRPPMessage := createSrppMessage ⟨1, 0, 19, 0⟩ (List.replicate 1367 7#8)

/-- In full bandwidth mode the count of a message of 1367 bytes is -1, and its padding is
empty. -/
theorem longMessage_miscounted : ∃ s,
    AfterInit (Env.constant 0) anyPadding (Lib.start (Env.constant 0)) s ∧
      ∃ i, ¬CountsPadding (s.lib.padding.dummyCache i) := by
  have hcheck : callsEnd (Env.constant 0) anyPadding (Lib.start (Env.constant 0))
      [.setPaddingOptions 1, .pad longMessage]
      (fun s => !decide (CountsPadding (s.lib.padding.dummyCache 0))) = true := by decide +kernel
  rcases callsEnd_afterInit hcheck with ⟨s, hs, hbad⟩
  exact ⟨s, hs, 0, by simpa using hbad⟩

/-- A packet in full bandwidth mode is put into the cache, and dummies are drawn. -/
theorem entries_count_in_calls : ∃ s,
    AfterInit (Env.constant 0) (keepsCount (Env.constant 0)) (Lib.start (Env.constant 0)) s ∧
      s.dummies.length = 2 ∧ ∀ m ∈ s.dummies, CountsPadding m := by
  have hcheck : callsEnd (Env.constant 0) (keepsCount (Env.constant 0)) (Lib.start (Env.constant 0))
      [.setPaddingOptions 1, .generateAnyDummyPkt, .pad (SRPPMessage.new ⟨1, 0, 19, 0⟩),
        .generateDummyPkt 200] (fun s => s.dummies.length == 2) = true := by decide +kernel
  rcases callsEnd_afterInit hcheck with ⟨s, hs, hlen⟩
  exact ⟨s, hs, by simpa using hlen, (entries_count_of_keepsCount (start_counts _) hs).2⟩

end Sqrkal.Library
