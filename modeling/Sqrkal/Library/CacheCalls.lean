import Sqrkal.Library.DummyCache

/-! # Sequences of padding operations

Whatever order the operations of `PaddingFunctions` are called in, each of them replaces
at most one entry of the dummy cache, and an entry is replaced by a padded packet, by a
copy of a given message, or by a shortened form of itself. This is stated once, and the
invariants of the cache are read off from it.
-/

namespace Sqrkal.Library
open Foundation Message Relation

/-- The operations that read or change the dummy cache. -/
inductive PaddingCall where
  | setPaddingOptions (i : ℤ)
  | pad (msg : SRPPMessage)
  | addToDummyCache (msg : SRPPMessage)
  | generateDummyData (size : ℤ)
  | generateAnyDummyPkt
  | generateDummyPkt (size : ℤ)

/-- The library, and all the dummies it has returned so far. -/
structure Drawn where
  lib : Lib
  dummies : List SRPPMessage

section Calls
variable (env : Env)

/-- One operation, with the dummies it returns. -/
def PaddingCall.perform : PaddingCall → Lib.Op (List SRPPMessage)
  | .setPaddingOptions i => do
    setOptions i
    return []
  | .pad msg => do
    let _ ← Library.pad env msg
    return []
  | .addToDummyCache msg => do
    Library.addToDummyCache env msg
    return []
  | .generateDummyData size => do
    let _ ← Library.generateDummyData env size
    return []
  | .generateAnyDummyPkt => do return [← Library.generateAnyDummyPkt env]
  | .generateDummyPkt size => do return [← Library.generateDummyPkt env size]

/-- An operation that is allowed in the state before it. -/
inductive CallStep (allowed : Lib → PaddingCall → Bool) (s : Drawn) : Drawn → Prop
  | call (c : PaddingCall) (h : allowed s.lib c = true) {ms : List SRPPMessage} {l : Lib}
      (hrun : (c.perform env).run s.lib = .ok (ms, l)) : CallStep allowed s ⟨l, ms ++ s.dummies⟩

/-- The states that allowed operations lead to after `init_SRPP`. -/
def AfterInit (allowed : Lib → PaddingCall → Bool) (l₀ : Lib) (s : Drawn) : Prop :=
  ∃ l, (initSrpp env).run l₀ = .ok ((), l) ∧ ReflTransGen (CallStep env allowed) ⟨l, []⟩ s

end Calls

/-! ## What an operation puts into the cache -/

/-- The pad count is the number of padding bytes, as an unsigned word. -/
def CountsPadding (e : SRPPMessage) : Prop :=
  e.encryptedPart.padCount = BitVec.ofNat 32 e.encryptedPart.srppPadding.length

instance (e : SRPPMessage) : Decidable (CountsPadding e) := inferInstanceAs (Decidable (_ = _))


/-- Full bandwidth is the mode that decides on the number of padding bytes. -/
def onlyFull (p : Padding) : Bool :=
  p.isFullBandwidth && !p.gradualAscentBandwidth && !p.isSmallPerturbation && !p.isBurstPadding

/-- A message with another payload, marked as a dummy. -/
def asEntry (msg : SRPPMessage) (payload : List Byte) : SRPPMessage :=
  { msg with
    encryptedPart := { msg.encryptedPart with originalPayload := payload, dummyFlag := 1 } }

/-- The entry that an operation writes at an index, and what it returns. -/
inductive Replaces (env : Env) (l : Lib) : PaddingCall → Fin 100 → SRPPMessage → List SRPPMessage → Prop
  | padded (msg : SRPPMessage) (i : Fin 100) (extra : ℤ) (padding payload : List Byte)
      (hi : (i : ℕ) < 99) (hpayload : payload ≠ []) (hlen : padding.length = extra.toNat)
      (hextra : 0 ≤ extra ∨ onlyFull l.padding = true ∧
        extra = 1366 - msg.encryptedPart.originalPayload.length) :
      Replaces env l (.pad msg) i
        (asEntry (withPadding msg padding (BitVec.ofInt 32 extra)) payload) []
  | added (msg : SRPPMessage) (i : Fin 100) (payload : List Byte) (hi : (i : ℕ) < 99)
      (hpayload : payload ≠ []) : Replaces env l (.addToDummyCache msg) i (asEntry msg payload) []
  | trimmed (seq : ℤ) : Replaces env l .generateAnyDummyPkt (indexOf (env.rand l.tick))
      (asTrimmed seq (l.padding.dummyCache (indexOf (env.rand l.tick))))
      [asTrimmed seq (l.padding.dummyCache (indexOf (env.rand l.tick)))]
  | cut (size seq : ℤ) : Replaces env l (.generateDummyPkt size) (indexOf (env.rand l.tick))
      (asDummy size seq (l.padding.dummyCache (indexOf (env.rand l.tick))))
      [asDummy size seq (l.padding.dummyCache (indexOf (env.rand l.tick)))]

/-- All that an operation does to the cache. -/
def Changes (env : Env) (l : Lib) (c : PaddingCall) (l' : Lib) (ms : List SRPPMessage) : Prop :=
  (l'.padding.dummyCache = l.padding.dummyCache ∧ ms = []) ∨
    ∃ i e, Replaces env l c i e ms ∧
      l'.padding.dummyCache = Function.update l.padding.dummyCache i e

section Runs
variable {env : Env} {l l' : Lib}

theorem srppRand_nonneg {min : ℤ} (hmin : 0 ≤ min) (max : ℤ) (draw : ℕ) :
    0 ≤ srppRand min max draw := by
  unfold srppRand
  split_ifs with h
  · exact le_rfl
  · rw [Int.tmod_eq_emod_of_nonneg (Int.natCast_nonneg draw)]
    exact add_nonneg (Int.emod_nonneg _ h) hmin

/-- The number of padding bytes is negative only in full bandwidth mode. -/
theorem extraSize_sign {paySize extra : ℤ} (h : (extraSize env paySize).run l = .ok (extra, l')) :
    0 ≤ extra ∨ onlyFull l.padding = true ∧ extra = 1366 - paySize := by
  rw [extraSize, run_get_bind] at h
  rcases run_bind_eq_ok h with ⟨e₁, l₁, h₁, h⟩
  rcases run_bind_eq_ok h with ⟨e₂, l₂, h₂, h⟩
  split_ifs at h with hsmall
  · cases h
    exact .inl (srppRand_nonneg le_rfl _ _)
  cases h
  by_cases hgradual : l.padding.gradualAscentBandwidth = true
  · -- the last draw of gradual ascent
    rw [if_pos hgradual] at h₂
    rcases run_bind_eq_ok h₂ with ⟨_, l₃, -, h₂⟩
    cases h₂
    exact .inl (srppRand_nonneg zero_le_one _ _)
  rw [if_neg hgradual] at h₂
  cases h₂
  split_ifs at h₁ with hfull
  · cases h₁
    refine .inr ⟨?_, rfl⟩
    simp only [Bool.or_eq_true, not_or, Bool.not_eq_true] at hsmall
    simp only [Bool.not_eq_true] at hgradual
    simp [onlyFull, hfull, hgradual, hsmall.1, hsmall.2]
  · cases h₁
    exact .inl (srppRand_nonneg zero_le_one _ _)

theorem extraSize_cache {paySize extra : ℤ} (h : (extraSize env paySize).run l = .ok (extra, l')) :
    l'.padding.dummyCache = l.padding.dummyCache ∧ l'.session = l.session := by
  rcases extraSize_run env l paySize with ⟨_, n, t, hrun, -⟩
  cases h.symm.trans hrun
  exact ⟨rfl, rfl⟩

theorem generateDummyData_ok {size : ℤ} {bytes : List Byte}
    (h : (generateDummyData env size).run l = .ok (bytes, l')) :
    bytes.length = size.toNat ∧ l'.padding = l.padding ∧ l'.session = l.session := by
  rcases generateDummyData_run env l size with ⟨i, -, hrun⟩
  rw [hrun] at h
  rcases run_lift_eq_ok h with ⟨hbytes, rfl⟩
  exact ⟨dummyBytes_length hbytes, rfl, rfl⟩

/-- `pad` leaves the session, and changes the cache on heads only. -/
theorem pad_ok {msg msg' : SRPPMessage} (h : (pad env msg).run l = .ok (msg', l')) :
    Changes env l (.pad msg) l' [] ∧ l'.session = l.session := by
  obtain ⟨extra, padding, l₁, hextra, hlen, rfl, -, hsession, hpadding⟩ := pad_cases env h
  rcases extraSize_cache hextra with ⟨hcache, hses⟩
  refine ⟨?_, hsession.trans hses⟩
  rcases hpadding with hsame | ⟨i, payload, hi, hpayload, hentry⟩
  · exact .inl ⟨by rw [hsame, hcache], rfl⟩
  · refine .inr ⟨i, _, .padded msg i extra padding payload hi hpayload hlen (extraSize_sign hextra), ?_⟩
    rw [hentry, ← hcache]
    rfl

/-- An operation that returns changes at most one entry, and never the session. -/
theorem perform_ok {c : PaddingCall} {ms : List SRPPMessage}
    (h : (c.perform env).run l = .ok (ms, l')) : Changes env l c l' ms ∧ l'.session = l.session := by
  cases c with
  | setPaddingOptions i =>
    cases h
    refine ⟨.inl ⟨?_, rfl⟩, rfl⟩
    dsimp only
    split_ifs <;> rfl
  | pad msg =>
    rcases run_bind_eq_ok h with ⟨q, u, hpad, h⟩
    cases h
    exact pad_ok hpad
  | addToDummyCache msg =>
    rcases run_bind_eq_ok h with ⟨_, u, hadd, h⟩
    cases h
    rcases addToDummyCache_run env l msg with ⟨i, payload, t, hi, hpayload, hrun⟩
    cases hadd.symm.trans hrun
    exact ⟨.inr ⟨i, _, .added msg i payload hi hpayload, rfl⟩, rfl⟩
  | generateDummyData size =>
    rcases run_bind_eq_ok h with ⟨bytes, u, hdata, h⟩
    cases h
    rcases generateDummyData_ok hdata with ⟨-, hpadding, hsession⟩
    exact ⟨.inl ⟨by rw [hpadding], rfl⟩, hsession⟩
  | generateAnyDummyPkt =>
    cases h
    exact ⟨.inr ⟨_, _, .trimmed l.lastSequenceNo, rfl⟩, rfl⟩
  | generateDummyPkt size =>
    cases h
    exact ⟨.inr ⟨_, _, .cut size l.lastSequenceNo, rfl⟩, rfl⟩

/-! ## Invariants of the cache -/

/-- If every entry that an allowed operation writes has a property, given that the entries
before have it, then so do all entries and all returned dummies, at the indices `drawn`
holds of. -/
theorem run_entries {allowed : Lib → PaddingCall → Bool} (drawn : Fin 100 → Prop)
    {P : SRPPMessage → Prop}
    (hstep : ∀ l c i e ms, allowed l c = true → Replaces env l c i e ms →
      (∀ j, drawn j → P (l.padding.dummyCache j)) → P e ∧ ∀ m ∈ ms, P m)
    {s s' : Drawn} (hrun : ReflTransGen (CallStep env allowed) s s')
    (hentries : ∀ j, drawn j → P (s.lib.padding.dummyCache j)) (hdummies : ∀ m ∈ s.dummies, P m) :
    (∀ j, drawn j → P (s'.lib.padding.dummyCache j)) ∧ ∀ m ∈ s'.dummies, P m := by
  induction hrun with
  | refl => exact ⟨hentries, hdummies⟩
  | tail _ hcall ih =>
    rcases ih with ⟨ihe, ihd⟩
    cases hcall with
    | call c h hr =>
      rcases (perform_ok hr).1 with ⟨hcache, rfl⟩ | ⟨i, e, hrep, hcache⟩
      · exact ⟨by rw [hcache]; exact ihe, ihd⟩
      · rcases hstep _ c i e _ h hrep ihe with ⟨he, hms⟩
        refine ⟨fun j hj => ?_, fun m hm => ?_⟩
        · rw [hcache, Function.update_apply]
          split_ifs
          · exact he
          · exact ihe j hj
        · rcases List.mem_append.mp hm with hm | hm
          · exact hms m hm
          · exact ihd m hm

/-- The constructor's entries have no padding, and nothing else changes. -/
theorem initialDummy_ok {msg : SRPPMessage} (h : (initialDummy env).run l = .ok (msg, l')) :
    CountsPadding msg ∧ l'.padding = l.padding ∧ l'.session = l.session := by
  rcases run_bind_eq_ok h with ⟨f, l₁, hf, h⟩
  cases hf
  rw [run_get_bind] at h
  rcases run_bind_eq_ok h with ⟨size, l₂, hsize, h⟩
  cases hsize
  obtain ⟨bytes, t, hbytes, -⟩ := randomBytes_run env l.constructed.ticked
    (srppRand 1 l.maxpacketsize (env.rand (l.tick + 1))).toNat
  rcases run_bind_eq_ok h with ⟨bs, l₃, hbs, h⟩
  cases hbs.symm.trans hbytes
  cases h
  exact ⟨rfl, rfl, rfl⟩

theorem initCache_session {n : ℕ} (h : (initCache env n).run l = .ok ((), l')) :
    l'.session = l.session := by
  induction n generalizing l' with
  | zero =>
    cases h
    rfl
  | succ n ih =>
    rcases run_bind_eq_ok h with ⟨_, l₁, h₁, h⟩
    rcases run_bind_eq_ok h with ⟨msg, l₂, hmsg, h⟩
    cases h
    exact (initialDummy_ok hmsg).2.2.trans (ih h₁)

theorem run_session {allowed : Lib → PaddingCall → Bool} {s s' : Drawn}
    (hrun : ReflTransGen (CallStep env allowed) s s') : s'.lib.session = s.lib.session := by
  induction hrun with
  | refl => rfl
  | tail _ hcall ih =>
    cases hcall with
    | call c h hr => exact (perform_ok hr).2.trans ih

/-- The key that was set before is the key of every such state. -/
theorem AfterInit.session {allowed : Lib → PaddingCall → Bool} {l₀ : Lib} {s : Drawn}
    (h : AfterInit env allowed l₀ s) : s.lib.session = l₀.session := by
  rcases h with ⟨l, hinit, hrun⟩
  exact (run_session hrun).trans (initCache_session hinit)

/-! ## Sequences that can be evaluated -/

section Evaluation
variable (env) (allowed : Lib → PaddingCall → Bool)

/-- Some operations one after the other, as long as they are allowed. -/
def performCalls : List PaddingCall → Drawn → Except Fault Drawn
  | [], s => .ok s
  | c :: cs, s =>
    if allowed s.lib c then do
      let (ms, l) ← (c.perform env).run s.lib
      performCalls cs ⟨l, ms ++ s.dummies⟩
    else .error .exited

/-- A check of the state behind `init_SRPP` and some operations. -/
def callsEnd (l₀ : Lib) (cs : List PaddingCall) (check : Drawn → Bool) : Bool :=
  match (initSrpp env).run l₀ with
  | .ok (_, l) => match performCalls env allowed cs ⟨l, []⟩ with
    | .ok s => check s
    | .error _ => false
  | .error _ => false

end Evaluation

theorem performCalls_ok {allowed : Lib → PaddingCall → Bool} {cs : List PaddingCall} {s s' : Drawn}
    (h : performCalls env allowed cs s = .ok s') : ReflTransGen (CallStep env allowed) s s' := by
  induction cs generalizing s with
  | nil =>
    cases h
    exact .refl
  | cons c cs ih =>
    rw [performCalls] at h
    split_ifs at h with ha
    cases hr : (c.perform env).run s.lib with
    | error e =>
      rw [hr] at h
      cases h
    | ok r =>
      rw [hr] at h
      exact .head (.call c ha hr) (ih h)

theorem callsEnd_afterInit {allowed : Lib → PaddingCall → Bool} {l₀ : Lib} {cs : List PaddingCall}
    {check : Drawn → Bool} (h : callsEnd env allowed l₀ cs check = true) :
    ∃ s, AfterInit env allowed l₀ s ∧ check s = true := by
  unfold callsEnd at h
  cases hinit : (initSrpp env).run l₀ with
  | error e =>
    rw [hinit] at h
    cases h
  | ok r =>
    rw [hinit] at h
    dsimp only at h
    cases hcalls : performCalls env allowed cs ⟨r.2, []⟩ with
    | error e =>
      rw [hcalls] at h
      cases h
    | ok s =>
      rw [hcalls] at h
      exact ⟨s, ⟨r.2, hinit, performCalls_ok hcalls⟩, h⟩

end Runs

end Sqrkal.Library
