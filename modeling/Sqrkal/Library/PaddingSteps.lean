import Sqrkal.Library.Burst

/-! # How the padding state changes

Padding a packet and drawing a dummy change the cache and the limits in one of
four ways. This is stated once, as steps of a relation, and invariants of the
cache are read off from the steps. `pad` itself returns unless the entry it draws
is empty.
-/

namespace Sqrkal.Library
open Foundation Message Relation

/-- A message that `pad` puts into the cache. In burst mode it has few padding bytes. -/
structure Cacheable (p : Padding) (e : SRPPMessage) : Prop where
  signalling : e.srppHeader.srppSignalling = 0
  cc : e.srppHeader.cc = 0#4
  payload : e.encryptedPart.originalPayload ≠ []
  dummyFlag : e.encryptedPart.dummyFlag = 1
  padCount : ∃ extra : ℤ, e.encryptedPart.padCount = BitVec.ofInt 32 extra ∧
    e.encryptedPart.srppPadding.length = extra.toNat ∧
    (p.isBurstPadding = true → 0 ≤ extra ∧ extra < 10)

/-- A change of the cache at an index that can be drawn. -/
def Padding.setEntry (p : Padding) (i : Fin 100) (msg : SRPPMessage) : Padding :=
  { p with dummyCache := Function.update p.dummyCache i msg }

inductive PaddingStep (p : Padding) : Padding → Prop
  | same : PaddingStep p p
  | insert (i : Fin 100) (e : SRPPMessage) (hi : (i : ℕ) < 99) (he : Cacheable p e) :
      PaddingStep p (p.setEntry i e)
  | cut (i : Fin 100) (draw : ℕ) (seq : ℤ) (hi : (i : ℕ) < 99) :
      PaddingStep p
        (p.setEntry i (asDummy (srppRand 100 p.lastmaxbandwidth draw) seq (p.dummyCache i)))
  | ascend (n : ℤ) (hg : p.gradualAscentBandwidth = true) :
      PaddingStep p { p with lastmaxbandwidth := n }
  | count (n : ℤ) : PaddingStep p { p with cbpPacketCount := n }

/-- A step of the library that leaves `signaling_complete` alone. -/
structure LibStep (l l' : Lib) : Prop where
  padding : PaddingStep l.padding l'.padding
  complete : l'.flags.signalingComplete = l.flags.signalingComplete

theorem LibStep.quiet {l l' : Lib} (hp : l'.padding = l.padding)
    (hc : l'.flags.signalingComplete = l.flags.signalingComplete) : LibStep l l' :=
  ⟨hp ▸ .same, hc⟩

/-! ## Padding -/

section Draws
variable (env : Env) (l : Lib)

theorem srppRand_eq {max : ℤ} (h : max ≠ 0) (min : ℤ) (r : ℕ) :
    srppRand min max r = (r : ℤ).tmod max + min := by
  rw [srppRand, if_neg h]

/-- The index a draw gives. -/
def indexOf (draw : ℕ) : Fin 100 := ⟨(srppRand 0 99 draw).toNat % 100, Nat.mod_lt _ (by decide)⟩

theorem indexOf_lt (draw : ℕ) : (indexOf draw : ℕ) < 99 := by
  change (srppRand 0 99 draw).toNat % 100 < 99
  rw [srppRand_eq (by decide), Int.tmod_eq_emod_of_nonneg (Int.natCast_nonneg _)]
  omega

theorem cacheIndex_run : (cacheIndex env).run l = .ok (indexOf (env.rand l.tick), l.ticked) := rfl

theorem dummyRounds_length (mem : Mem) {n : ℕ} (hn : 0 < n) (rounds remaining : ℕ)
    (h : remaining ≤ rounds) : (dummyRounds mem n rounds remaining).length = remaining := by
  induction rounds generalizing remaining with
  | zero =>
    obtain rfl : remaining = 0 := by omega
    rfl
  | succ rounds ih =>
    cases remaining with
    | zero => rfl
    | succ k =>
      change (mem.read 0 (min n (k + 1)) ++
        dummyRounds mem n rounds (k + 1 - min n (k + 1))).length = k + 1
      rw [List.length_append, Mem.read_length, ih _ (by omega)]
      omega

theorem dummyBytes_length {mem : Mem} {n : ℕ} {size : ℤ} {bytes : List Byte}
    (h : dummyBytes mem n size = .ok bytes) : bytes.length = size.toNat := by
  unfold dummyBytes at h
  split_ifs at h with hs hn
  · obtain rfl := Except.ok.inj h
    simp only [List.length_nil]
    omega
  · obtain rfl := Except.ok.inj h
    exact dummyRounds_length mem (by omega) _ _ le_rfl

theorem dummyBytes_ok (mem : Mem) {n : ℕ} (hn : n ≠ 0) (size : ℤ) :
    ∃ bytes, dummyBytes mem n size = .ok bytes := by
  unfold dummyBytes
  split_ifs
  · exact ⟨_, rfl⟩
  · exact ⟨_, rfl⟩

/-- `generate_dummy_data` is its loop on a drawn entry. -/
theorem generateDummyData_run (size : ℤ) :
    ∃ i : Fin 100, (i : ℕ) < 99 ∧ (generateDummyData env size).run l =
      (liftM (dummyBytes (env.junk (l.tick + 2))
        (l.padding.dummyCache i).encryptedPart.originalPayload.length size) :
          Lib.Op (List Byte)).run l.ticked.constructed.ticked := by
  refine ⟨_, indexOf_lt (env.rand l.tick), ?_⟩
  rw [generateDummyData, run_bind_ok (cacheIndex_run env l), run_bind_ok (unusedMessage_run _ env),
    run_get_bind]
  rfl

/-- The bandwidth limit of gradual ascent, and the draw below it. -/
theorem ascent_run (paySize : ℤ) :
    ∃ extra n t, (do
        (if l.padding.lastmaxbandwidth < paySize then ascend env paySize else pure ())
        rand env 1 ((← get).padding.lastmaxbandwidth - paySize) : Lib.Op ℤ).run l =
      .ok (extra, { l with padding := { l.padding with lastmaxbandwidth := n }, tick := t }) := by
  split_ifs
  · exact ⟨_, _, _, rfl⟩
  · exact ⟨_, _, _, rfl⟩

/-- The number of padding bytes in full bandwidth mode and in burst mode, and what
deciding on it changes. -/
theorem extraSize_run (paySize : ℤ) :
    ∃ extra n t, (extraSize env paySize).run l =
        .ok (extra, { l with padding := { l.padding with lastmaxbandwidth := n }, tick := t }) ∧
      (l.padding.gradualAscentBandwidth = false → n = l.padding.lastmaxbandwidth) ∧
      (l.padding.isBurstPadding = true → 0 ≤ extra ∧ extra < 10) ∧
      (l.padding.isFullBandwidth = true → l.padding.gradualAscentBandwidth = false →
        l.padding.isSmallPerturbation = false → l.padding.isBurstPadding = false →
        extra = 1366 - paySize) := by
  -- the first choice
  obtain ⟨e₁, t₁, h₁, hfull⟩ : ∃ e t, (if l.padding.isFullBandwidth then pure (1366 - paySize)
      else rand env 1 (1366 - paySize) : Lib.Op ℤ).run l = .ok (e, { l with tick := t }) ∧
      (l.padding.isFullBandwidth = true → e = 1366 - paySize) := by
    split_ifs with h
    · exact ⟨_, l.tick, rfl, fun _ => rfl⟩
    · exact ⟨_, l.tick + 1, rfl, fun hf => absurd hf h⟩
  -- gradual ascent overrides it
  obtain ⟨e₂, n, t₂, h₂, hn, he₂⟩ : ∃ e n t, (if l.padding.gradualAscentBandwidth then do
        (if l.padding.lastmaxbandwidth < paySize then ascend env paySize else pure ())
        rand env 1 ((← get).padding.lastmaxbandwidth - paySize)
      else pure e₁ : Lib.Op ℤ).run { l with tick := t₁ } =
        .ok (e, { l with padding := { l.padding with lastmaxbandwidth := n }, tick := t }) ∧
      (l.padding.gradualAscentBandwidth = false → n = l.padding.lastmaxbandwidth) ∧
      (l.padding.gradualAscentBandwidth = false → e = e₁) := by
    by_cases h : l.padding.gradualAscentBandwidth = true
    · rcases ascent_run env { l with tick := t₁ } paySize with ⟨e, n, t, hr⟩
      rw [if_pos h]
      exact ⟨e, n, t, hr, by simp [h], by simp [h]⟩
    · rw [if_neg h]
      exact ⟨_, _, _, rfl, fun _ => rfl, fun _ => rfl⟩
  rw [extraSize, run_get_bind]
  dsimp only
  rw [run_bind_ok h₁, run_bind_ok h₂]
  split_ifs with hs
  · refine ⟨_, n, _, rfl, hn, fun _ => ?_, ?_⟩
    · dsimp only
      rw [srppRand_eq (by decide), Int.tmod_eq_emod_of_nonneg (Int.natCast_nonneg _)]
      omega
    · intro _ _ hp hb
      simp [hp, hb] at hs
  · refine ⟨e₂, n, t₂, rfl, hn, ?_, ?_⟩
    · intro hb
      simp [hb] at hs
    · intro hf hg _ _
      rw [he₂ hg, hfull hf]

/-- What deciding on `extra` padding bytes for a payload leaves behind. -/
structure PadDraw (l : Lib) (paySize extra : ℤ) (l' : Lib) : Prop where
  padding : ∃ n, l'.padding = { l.padding with lastmaxbandwidth := n } ∧
    (l.padding.gradualAscentBandwidth = false → n = l.padding.lastmaxbandwidth)
  flags : l'.flags = l.flags
  session : l'.session = l.session
  burst : l.padding.isBurstPadding = true → 0 ≤ extra ∧ extra < 10
  full : l.padding.isFullBandwidth = true → l.padding.gradualAscentBandwidth = false →
    l.padding.isSmallPerturbation = false → l.padding.isBurstPadding = false → extra = 1366 - paySize

/-- A message with the padding `default_psp_pad_algo` gives it. -/
def padded (msg : SRPPMessage) (extra : ℤ) (padding : List Byte) : SRPPMessage :=
  { msg with
    encryptedPart :=
      { msg.encryptedPart with srppPadding := padding, padCount := BitVec.ofInt 32 extra } }

/-- `default_psp_pad_algo` decides on a number of bytes and takes them from a drawn entry. -/
theorem defaultPspPadAlgo_run (msg : SRPPMessage) :
    ∃ (extra : ℤ) (l' : Lib) (mem : Mem) (i : Fin 100), (i : ℕ) < 99 ∧
      PadDraw l msg.encryptedPart.originalPayload.length extra l' ∧
      (defaultPspPadAlgo env msg).run l =
        match dummyBytes mem (l.padding.dummyCache i).encryptedPart.originalPayload.length extra with
        | .ok padding => .ok (padded msg extra padding, l')
        | .error e => .error e := by
  obtain ⟨extra, n, t, hrun, hn, hburst, hfull⟩ := extraSize_run env l msg.encryptedPart.originalPayload.length
  let u : Lib := { l with padding := { l.padding with lastmaxbandwidth := n }, tick := t }
  rcases generateDummyData_run env u extra with ⟨i, hi, hd⟩
  let v : Lib := u.ticked.constructed.ticked
  refine ⟨extra, { v with timer := { v.timer with packetCounter := 0, silenceCounter := 0 } },
    env.junk (u.tick + 2), i, hi, ⟨⟨n, rfl, hn⟩, rfl, rfl, hburst, hfull⟩, ?_⟩
  rw [defaultPspPadAlgo, run_bind_ok hrun]
  change (generateDummyData env extra >>= _).run u = _
  rw [StateT.run_bind, hd]
  cases dummyBytes (env.junk (u.tick + 2)) (u.padding.dummyCache i).encryptedPart.originalPayload.length
      extra with
  | error e => rfl
  | ok padding => rfl

theorem PadDraw.step {l l' : Lib} {paySize extra : ℤ} (h : PadDraw l paySize extra l') :
    LibStep l l' := by
  rcases h.padding with ⟨n, hp, hn⟩
  refine ⟨?_, by rw [h.flags]⟩
  rw [hp]
  cases hg : l.padding.gradualAscentBandwidth with
  | true => exact .ascend n hg
  | false =>
    rw [hn hg]
    exact .same

end Draws

/-! ## The cache -/

section Cache
variable (env : Env) (l : Lib)

theorem randomBytes_run (n : ℕ) : ∃ bytes t,
    (randomBytes env n).run l = .ok (bytes, { l with tick := t }) ∧ bytes.length = n := by
  induction n generalizing l with
  | zero => exact ⟨[], l.tick, rfl, rfl⟩
  | succ n ih =>
    rcases ih l.ticked.ticked with ⟨bytes, t, hrun, hlen⟩
    rw [randomBytes, run_bind_ok (rand_run _ env _ _), run_bind_ok (rand_run _ env _ _),
      run_bind_ok hrun]
    exact ⟨_, t, rfl, by simp [hlen]⟩

theorem scramble_run (bs : List Byte) : ∃ bytes t,
    (scramble env bs).run l = .ok (bytes, { l with tick := t }) ∧ bytes.length = bs.length := by
  induction bs generalizing l with
  | nil => exact ⟨[], l.tick, rfl, rfl⟩
  | cons b bs ih =>
    rcases ih l.ticked with ⟨bytes, t, hrun, hlen⟩
    rw [scramble, run_bind_ok (rand_run _ env _ _), run_bind_ok hrun]
    exact ⟨_, t, rfl, by simp [hlen]⟩

/-- `add_to_dummy_cache` puts a copy with some payload at an index that can be drawn. -/
theorem addToDummyCache_run (msg : SRPPMessage) :
    ∃ (i : Fin 100) (payload : List Byte) (t : ℕ), (i : ℕ) < 99 ∧ payload ≠ [] ∧
      (addToDummyCache env msg).run l = .ok ((), { l with
        padding := l.padding.setEntry i { msg with
          encryptedPart := { msg.encryptedPart with originalPayload := payload, dummyFlag := 1 } }
        tick := t }) := by
  obtain ⟨payload, t, hs, hlen⟩ := scramble_run env l.ticked.ticked msg.encryptedPart.originalPayload
  obtain ⟨extra, t', hr, hlen'⟩ := randomBytes_run env { l.ticked.ticked with tick := t }
    ((srppRand 1 500 (env.rand l.ticked.tick)).toNat - payload.length)
  refine ⟨_, payload ++ extra, t', indexOf_lt (env.rand l.tick), ?_, ?_⟩
  · have hpos : 1 ≤ srppRand 1 500 (env.rand l.ticked.tick) := by
      rw [srppRand_eq (by decide), Int.tmod_eq_emod_of_nonneg (Int.natCast_nonneg _)]
      omega
    intro he
    have := congrArg List.length he
    rw [List.length_append, hlen', List.length_nil] at this
    omega
  · rw [addToDummyCache, run_bind_ok (cacheIndex_run env l), run_bind_ok (rand_run _ env _ _), run_bind_ok hs,
      run_bind_ok hr]
    rfl

/-- `pad` on a media message: how many bytes it decides on, and from which entry it
takes them. -/
theorem pad_run (msg : SRPPMessage) (hs : msg.srppHeader.srppSignalling = 0)
    (hc : msg.srppHeader.cc = 0#4) :
    ∃ (extra : ℤ) (l₁ : Lib) (mem : Mem) (i : Fin 100), (i : ℕ) < 99 ∧
      PadDraw l msg.encryptedPart.originalPayload.length extra l₁ ∧
      match dummyBytes mem (l.padding.dummyCache i).encryptedPart.originalPayload.length extra with
      | .ok padding => ∃ l', (pad env msg).run l =
            .ok (withPadding msg padding (BitVec.ofInt 32 extra), l') ∧
          ReflTransGen LibStep l l' ∧ l'.session = l.session
      | .error e => (pad env msg).run l = .error e := by
  rcases defaultPspPadAlgo_run env l msg with ⟨extra, l₁, mem, i, hi, hdraw, hrun⟩
  refine ⟨extra, l₁, mem, i, hi, hdraw, ?_⟩
  cases hb : dummyBytes mem (l.padding.dummyCache i).encryptedPart.originalPayload.length extra with
  | error e =>
    rw [hb] at hrun
    exact run_bind_error hrun
  | ok padding =>
    rw [hb] at hrun
    have hlen := dummyBytes_length hb
    rcases hdraw.padding with ⟨n, hp, -⟩
    obtain ⟨j, payload, t, hj, hne, hadd⟩ := addToDummyCache_run env l₁.ticked
      (withPadding msg padding (BitVec.ofInt 32 extra))
    -- the message put into the cache
    have hcache : Cacheable l₁.ticked.padding { withPadding msg padding (BitVec.ofInt 32 extra) with
        encryptedPart := { (withPadding msg padding (BitVec.ofInt 32 extra)).encryptedPart with
          originalPayload := payload, dummyFlag := 1 } } :=
      { signalling := hs, cc := hc, payload := hne, dummyFlag := rfl
        padCount := ⟨extra, rfl, hlen, fun hburst => hdraw.burst (by
          have hl : l₁.ticked.padding = _ := hp
          rw [hl] at hburst
          exact hburst)⟩ }
    have htick : LibStep l₁ l₁.ticked := .quiet rfl rfl
    dsimp only
    rw [pad, run_bind_ok hrun, run_bind_ok (rand_run _ env _ _)]
    split_ifs
    · change ∃ l', (addToDummyCache env (withPadding msg padding (BitVec.ofInt 32 extra)) >>=
        fun _ => pure (withPadding msg padding (BitVec.ofInt 32 extra))).run l₁.ticked = _ ∧ _
      rw [run_bind_ok hadd]
      refine ⟨_, rfl, .tail (.tail (.single hdraw.step) htick) ⟨.insert j _ hj hcache, rfl⟩, ?_⟩
      exact hdraw.session
    · exact ⟨_, rfl, .tail (.single hdraw.step) htick, hdraw.session⟩

/-- A packet that can be converted has no contributing sources. -/
theorem rtpFields_ok {f : Fresh} {rtp : RTPHeader} {data : List Byte} {msg : SRPPMessage}
    (h : rtpFields f rtp data = .ok msg) :
    msg.srppHeader.srppSignalling = 0 ∧ msg.srppHeader.cc = 0#4 ∧
      msg.encryptedPart.originalPayload = data := by
  by_cases hcc : csrcBound rtp.cc ≤ 15
  · simp only [rtpFields, csrcLoop, if_pos hcc, bind, Except.bind, pure, Except.pure] at h
    obtain rfl := Except.ok.inj h
    refine ⟨rfl, ?_, rfl⟩
    have hz : ∀ cc : BitVec 4, csrcBound cc ≤ 15 → cc = 0#4 := by decide
    exact hz _ hcc
  · simp only [rtpFields, csrcLoop, if_neg hcc, bind, Except.bind] at h
    cases h

omit env l in
theorem rtpFields_seq {f : Fresh} {rtp : RTPHeader} {data : List Byte} {msg : SRPPMessage}
    (h : rtpFields f rtp data = .ok msg) : msg.srppHeader.seq = f.seq := by
  unfold rtpFields at h
  dsimp only at h
  cases hc : csrcLoop rtp.cc (fun c => (htons (c.setWidth 16)).setWidth 32) rtp.csrc
      (createSrppMessage f data).srppHeader.csrc with
  | error e =>
    rw [hc] at h
    cases h
  | ok csrc =>
    rw [hc] at h
    cases h
    rfl

theorem rtpToSrppOp_within (rtp : RTPHeader) (data : List Byte) :
    Within LibStep (rtpToSrppOp env rtp data) := by
  intro l msg l' h
  rw [rtpToSrppOp, run_bind_ok (nextFresh_run l env)] at h
  cases hf : rtpFields (l.fresh env) rtp data with
  | error e =>
    rw [run_bind_error (run_lift_error hf _)] at h
    cases h
  | ok m =>
    rw [run_bind_ok (run_lift_ok hf _)] at h
    rcases rtpFields_ok hf with ⟨hs, hc, -⟩
    rcases pad_run env l.constructed m hs hc with ⟨extra, l₁, mem, i, -, -, hpad⟩
    revert hpad
    cases dummyBytes mem (l.constructed.padding.dummyCache i).encryptedPart.originalPayload.length
        extra with
    | error e =>
      intro hpad
      rw [run_bind_error hpad] at h
      cases h
    | ok padding =>
      rintro ⟨l₂, hpad, hsteps, -⟩
      rw [run_bind_ok hpad] at h
      cases h
      have hfresh : LibStep l l.constructed := .quiet rfl rfl
      have htick : LibStep l₂ l₂.ticked := .quiet rfl rfl
      exact .tail (.head hfresh hsteps) htick

/-- What a `pad` that returns has done: as many bytes as were decided on have become the padding,
and on heads an entry has become a copy of the message with another payload. -/
theorem pad_cases {l l' : Lib} {msg msg' : SRPPMessage} (h : (pad env msg).run l = .ok (msg', l')) :
    ∃ (extra : ℤ) (bytes : List Byte) (l₁ : Lib),
      (extraSize env msg.encryptedPart.originalPayload.length).run l = .ok (extra, l₁) ∧
      bytes.length = extra.toNat ∧ msg' = withPadding msg bytes (BitVec.ofInt 32 extra) ∧
      l'.lastSequenceNo = l₁.lastSequenceNo + 1 ∧ l'.session = l₁.session ∧
      (l'.padding = l₁.padding ∨ ∃ (i : Fin 100) (payload : List Byte), (i : ℕ) < 99 ∧ payload ≠ [] ∧
        l'.padding = l₁.padding.setEntry i { msg' with
          encryptedPart := { msg'.encryptedPart with originalPayload := payload, dummyFlag := 1 } }) := by
  rcases run_bind_eq_ok h with ⟨q, l₂, hpsp, h⟩
  rcases run_bind_eq_ok hpsp with ⟨extra, l₁, hextra, hpsp⟩
  rcases run_bind_eq_ok hpsp with ⟨bytes, l₃, hdata, hpsp⟩
  cases hpsp
  rcases generateDummyData_run env l₁ extra with ⟨i, -, hrun⟩
  rw [hrun] at hdata
  rcases run_lift_eq_ok hdata with ⟨hbytes, rfl⟩
  rcases run_bind_eq_ok h with ⟨coin, l₄, hcoin, h⟩
  cases hcoin
  rcases run_bind_eq_ok h with ⟨_, l₅, hadd, h⟩
  cases h
  refine ⟨extra, bytes, l₁, hextra, dummyBytes_length hbytes, rfl, ?_⟩
  split_ifs at hadd
  · obtain ⟨i, payload, t, hi, hpayload, hrun⟩ := addToDummyCache_run env _ _
    cases hadd.symm.trans hrun
    exact ⟨rfl, rfl, .inr ⟨i, payload, hi, hpayload, rfl⟩⟩
  · cases hadd
    exact ⟨rfl, rfl, .inl rfl⟩

/-- `pad` leaves the header, and takes one number for the unused message of
`generate_dummy_data`. -/
theorem pad_counter {l l' : Lib} {msg msg' : SRPPMessage} (h : (pad env msg).run l = .ok (msg', l')) :
    msg'.srppHeader = msg.srppHeader ∧ l'.lastSequenceNo = l.lastSequenceNo + 1 := by
  obtain ⟨extra, bytes, l₁, hextra, -, rfl, hcounter, -⟩ := pad_cases env h
  rcases extraSize_run env l msg.encryptedPart.originalPayload.length with ⟨_, _, _, hrun, -⟩
  cases hextra.symm.trans hrun
  exact ⟨rfl, hcounter⟩

/-- A converted packet carries the next number, and two numbers are used up. -/
theorem rtpToSrppOp_counter {l l' : Lib} {rtp : RTPHeader} {data : List Byte} {msg : SRPPMessage}
    (h : (rtpToSrppOp env rtp data).run l = .ok (msg, l')) :
    msg.srppHeader.seq = BitVec.ofInt 16 (l.lastSequenceNo + 1) ∧ msg.srppHeader.cc = 0#4 ∧
      l'.lastSequenceNo = l.lastSequenceNo + 2 := by
  rw [rtpToSrppOp, run_bind_ok (nextFresh_run l env)] at h
  rcases run_bind_eq_ok h with ⟨m, _, hfields, h⟩
  rcases run_lift_eq_ok hfields with ⟨hf, rfl⟩
  rcases run_bind_eq_ok h with ⟨q, l₂, hpad, h⟩
  cases h
  rcases pad_counter env hpad with ⟨hheader, hcounter⟩
  rcases rtpFields_ok hf with ⟨-, hcc, -⟩
  have hseq : m.srppHeader.seq = (l.fresh env).seq := rtpFields_seq hf
  refine ⟨?_, ?_, ?_⟩
  · change q.srppHeader.seq = _
    rw [hheader, hseq]
    rfl
  · change q.srppHeader.cc = _
    rw [hheader, hcc]
  · change l₂.lastSequenceNo = _
    rw [hcounter]
    change l.lastSequenceNo + 1 + 1 = _
    omega

/-- The index `generate_dummy_pkt` draws after the size. -/
def drawnIndex : Fin 100 := indexOf (env.rand (l.tick + 1))

/-- The entry as `generate_dummy_pkt` cuts it. -/
def drawnDummy : SRPPMessage :=
  asDummy (srppRand 100 l.padding.lastmaxbandwidth (env.rand l.tick)) l.lastSequenceNo
    (l.padding.dummyCache (drawnIndex env l))

/-- A drawn dummy is an entry, cut in place and encrypted. -/
theorem drawDummy_run : (drawDummy env).run l =
    .ok (encryptSrpp (drawnDummy env l) l.session.encryptionKey (env.rand (l.tick + 2)),
      { l with
        padding := l.padding.setEntry (drawnIndex env l) (drawnDummy env l)
        lastSequenceNo := l.lastSequenceNo + 1, tick := l.tick + 3 }) := by
  rw [drawDummy, run_get_bind, run_bind_ok (rand_run _ env _ _), generateDummyPkt, bind_assoc,
    run_bind_ok (cacheIndex_run env l.ticked)]
  rfl

theorem drawDummy_within : Within LibStep (drawDummy env) := by
  intro l msg l' h
  rw [drawDummy_run env l] at h
  cases h
  exact .single ⟨.cut _ _ _ (indexOf_lt _), rfl⟩

end Cache

end Sqrkal.Library
