import Sqrkal.Handshake.Calls

/-! # What `processReceivedData` returns

Media is returned to the caller on one path only, the one for a session that was
negotiated through SIP. With in-band signalling and SRPP enabled the function ends without
a `return`, and so it does behind every signalling message. `verifySignalling` has no
value either while a HELLO is out and something that looks like an answer comes in.
-/

namespace Sqrkal.Handshake
open Foundation Message Library

variable {δ : Type} (env : Env) (F : Functors δ) (mem : Mem)

/-- The buffer looks like an answer to a HELLO. -/
def looksAnswered : Prop :=
  (SRPPHeader.load mem 0).srppSignalling = 13 ∨ (SRPPHeader.load mem 0).pt = 124

instance : Decidable (looksAnswered mem) := inferInstanceAs (Decidable (_ ∨ _))

/-- `verifySignalling`, with `none` where it ends without a value. -/
def verifySignallingValue : World.Op δ (Option ℤ) := do
  if (← get).lib.flags.hellosent then
    let header := SRPPHeader.load mem 0
    if header.srppSignalling ≠ 13 ∧ header.pt ≠ 124 then
      setLib fun l => { l with nonsrppMessageCount := l.nonsrppMessageCount + 1 }
      if 1000 < (← get).lib.nonsrppMessageCount then
        setLib fun l => { l with srppEnabled := 0 }
        return some (← stopSession env F)
      else return some (-1)
    else return none
  else return some 0

variable (w : World δ)

/-- One more message that is no answer. -/
def countUnanswered : World δ :=
  { w with lib := { w.lib with nonsrppMessageCount := w.lib.nonsrppMessageCount + 1 } }

/-- SRPP is given up. -/
def giveUp : World δ :=
  { countUnanswered w with
    lib := pauseTimer { (countUnanswered w).lib with srppEnabled := 0 } }

variable {w} {mem}

theorem not_looksAnswered (h : ¬looksAnswered mem) :
    (SRPPHeader.load mem 0).srppSignalling ≠ 13 ∧ (SRPPHeader.load mem 0).pt ≠ 124 :=
  not_or.mp h

theorem verifySignallingValue_idle (hs : w.lib.flags.hellosent = false) :
    (verifySignallingValue env F mem).run w = .ok (some 0, w) := by
  rw [verifySignallingValue, run_get_bind, if_neg (by rw [hs]; decide)]
  rfl

theorem verifySignallingValue_answered (hs : w.lib.flags.hellosent = true)
    (ha : looksAnswered mem) : (verifySignallingValue env F mem).run w = .ok (none, w) := by
  have hn : ¬((SRPPHeader.load mem 0).srppSignalling ≠ 13 ∧ (SRPPHeader.load mem 0).pt ≠ 124) := by
    rw [not_and_or, not_not, not_not]
    exact ha
  rw [verifySignallingValue, run_get_bind, if_pos hs]
  dsimp only
  rw [if_neg hn]
  rfl

/-- Media while a HELLO is out is counted and never reported as verified. -/
theorem verifySignallingValue_unanswered (hs : w.lib.flags.hellosent = true)
    (ha : ¬looksAnswered mem) :
    ∃ r w', r ≠ 0 ∧ (verifySignallingValue env F mem).run w = .ok (some r, w') := by
  by_cases hc : 1000 < w.lib.nonsrppMessageCount + 1
  · refine ⟨-10, giveUp w, by decide, ?_⟩
    rw [verifySignallingValue, run_get_bind, if_pos hs]
    dsimp only
    rw [if_pos (not_looksAnswered ha), run_bind_ok (setLib_run _ _), run_get_bind, if_pos hc,
      run_bind_ok (setLib_run _ _), run_bind_ok (stopSession_disabled env F rfl)]
    rfl
  · refine ⟨-1, countUnanswered w, by decide, ?_⟩
    rw [verifySignallingValue, run_get_bind, if_pos hs]
    dsimp only
    rw [if_pos (not_looksAnswered ha), run_bind_ok (setLib_run _ _), run_get_bind, if_neg hc]
    rfl

/-- Where there is no value, the caller finds whatever is in the register. -/
theorem verifySignalling_run {r : Option ℤ} {w' : World δ}
    (h : (verifySignallingValue env F mem).run w = .ok (r, w')) :
    (verifySignalling env F mem).run w =
      (r.elim (onLib (indeterminate env)) (fun n => pure n)).run w' := by
  cases hs : w.lib.flags.hellosent with
  | false =>
    rw [verifySignallingValue_idle env F hs] at h
    cases h
    rw [verifySignalling, run_get_bind, if_neg (by rw [hs]; decide)]
    rfl
  | true =>
    rw [verifySignalling, run_get_bind, if_pos hs]
    dsimp only
    by_cases ha : looksAnswered mem
    · rw [verifySignallingValue_answered env F hs ha] at h
      cases h
      rw [if_neg fun hn => ha.elim hn.1 hn.2]
      rfl
    · rw [if_pos (not_looksAnswered ha), run_bind_ok (setLib_run _ _), run_get_bind]
      rw [verifySignallingValue, run_get_bind, if_pos hs] at h
      dsimp only at h
      rw [if_pos (not_looksAnswered ha), run_bind_ok (setLib_run _ _), run_get_bind] at h
      by_cases hc : 1000 < w.lib.nonsrppMessageCount + 1
      · rw [if_pos hc, run_bind_ok (setLib_run _ _),
          run_bind_ok (stopSession_disabled env F rfl)] at h
        rw [if_pos hc, run_bind_ok (setLib_run _ _), stopSession_disabled env F rfl]
        cases h
        rfl
      · rw [if_neg hc] at h
        rw [if_neg hc]
        cases h
        rfl

/-! ## The paths of `processReceivedData` -/

variable (bytes : ℤ)

/-- The message the decoder starts from. -/
def blank (l : Lib) : SRPPMessage := createSrppMessage (l.fresh env) []

theorem processReceivedData_start :
    (processReceivedData env F mem bytes).run w = (do
      let l := (← get).lib
      if !l.signalingBySrpp && l.flags.signalingComplete then
        let (_, msg) ← liftM (networkToSrpp (blank env w.lib) mem bytes l.session.encryptionKey)
        return some msg
      else if isSignalingBuffer mem = 1 then
        let (_, msg) ← liftM (networkToSrpp (blank env w.lib) mem bytes 0)
        if isSignalingMessage msg = 1 then
          dispatch env F msg
          return none
        else return some msg
      else
        let status ← verifySignalling env F mem
        let l := (← get).lib
        if status = 0 ∧ l.srppEnabled = 0 then
          let (_, msg) ← liftM (networkToSrpp (blank env w.lib) mem bytes l.session.encryptionKey)
          if isSignalingMessage msg = 1 then
            dispatch env F msg
            return none
          else return some msg
        else return none : World.Op δ (Option SRPPMessage)).run { w with lib := w.lib.constructed } :=
  rfl

/-- A session negotiated through SIP. -/
def bySip (l : Lib) : Prop := l.signalingBySrpp = false ∧ l.flags.signalingComplete = true

instance (l : Lib) : Decidable (bySip l) := inferInstanceAs (Decidable (_ ∧ _))

theorem bySip_iff (l : Lib) :
    (!l.signalingBySrpp && l.flags.signalingComplete) = true ↔ bySip l := by
  simp [bySip]

theorem processReceivedData_bySip (hb : bySip w.lib) :
    (processReceivedData env F mem bytes).run w = (do
      let (_, msg) ← liftM (networkToSrpp (blank env w.lib) mem bytes w.lib.session.encryptionKey)
      return some msg : World.Op δ (Option SRPPMessage)).run { w with lib := w.lib.constructed } := by
  rw [processReceivedData_start, run_get_bind]
  dsimp only
  rw [if_pos ((bySip_iff w.lib.constructed).mpr hb)]
  rfl

theorem processReceivedData_delivers {msg : SRPPMessage} {status : ℤ} (hb : bySip w.lib)
    (hd : networkToSrpp (blank env w.lib) mem bytes w.lib.session.encryptionKey = .ok (status, msg)) :
    (processReceivedData env F mem bytes).run w =
      .ok (some msg, { w with lib := w.lib.constructed }) := by
  rw [processReceivedData_bySip env F bytes hb, run_bind_ok (run_lift_ok hd _)]
  rfl

/-- Behind a signalling message there is no value. -/
theorem processReceivedData_signalling {r : Option SRPPMessage} {w' : World δ} (hb : ¬bySip w.lib)
    (hs : isSignalingBuffer mem = 1)
    (hr : (processReceivedData env F mem bytes).run w = .ok (r, w')) : r = none := by
  rw [processReceivedData_start, run_get_bind] at hr
  dsimp only at hr
  rw [if_neg (mt (bySip_iff w.lib.constructed).mp hb), if_pos hs] at hr
  rcases run_bind_eq_ok hr with ⟨⟨status, msg⟩, v, hd, hr⟩
  rcases run_lift_eq_ok hd with ⟨hd, -⟩
  dsimp only at hr
  rw [if_pos ((isSignalingMessage_iff hd).mpr hs)] at hr
  rcases run_bind_eq_ok hr with ⟨-, u, -, hr⟩
  cases hr
  rfl

/-- Media that is not verified is dropped without a value. -/
theorem processReceivedData_unverified {n : ℤ} {u : World δ} (hb : ¬bySip w.lib)
    (hs : isSignalingBuffer mem ≠ 1)
    (hv : (verifySignallingValue env F mem).run { w with lib := w.lib.constructed } = .ok (some n, u))
    (hn : ¬(n = 0 ∧ u.lib.srppEnabled = 0)) :
    (processReceivedData env F mem bytes).run w = .ok (none, u) := by
  rw [processReceivedData_start, run_get_bind]
  dsimp only
  rw [if_neg (mt (bySip_iff w.lib.constructed).mp hb), if_neg hs,
    run_bind_ok ((verifySignalling_run env F hv).trans rfl), run_get_bind]
  rw [if_neg hn]
  rfl

/-- Media of a disabled session is returned. -/
theorem processReceivedData_disabled {r : Option SRPPMessage} {w' : World δ} (hb : ¬bySip w.lib)
    (hs : isSignalingBuffer mem ≠ 1) (hh : w.lib.flags.hellosent = false)
    (he : w.lib.srppEnabled = 0)
    (hr : (processReceivedData env F mem bytes).run w = .ok (r, w')) : ∃ msg, r = some msg := by
  rw [processReceivedData_start, run_get_bind] at hr
  dsimp only at hr
  have hv := @verifySignallingValue_idle δ env F mem { w with lib := w.lib.constructed } hh
  rw [if_neg (mt (bySip_iff w.lib.constructed).mp hb), if_neg hs,
    run_bind_ok ((verifySignalling_run env F hv).trans rfl), run_get_bind] at hr
  dsimp only at hr
  rw [if_pos ⟨rfl, he⟩] at hr
  rcases run_bind_eq_ok hr with ⟨⟨status, msg⟩, v, hd, hr⟩
  rcases run_lift_eq_ok hd with ⟨hd, -⟩
  dsimp only at hr
  rw [if_neg (mt (isSignalingMessage_iff hd).mp hs)] at hr
  cases hr
  exact ⟨msg, rfl⟩

/-! ## When the caller gets an answer -/

/-- The library answers for a datagram: media of an enabled session is returned decoded,
and neither function ends without a value. -/
structure Answers (w : World δ) (mem : Mem) (bytes : ℤ) : Prop where
  delivered : ∀ msg, w.lib.flags.signalingComplete = true → w.lib.srppEnabled = 1 →
    isSignalingBuffer mem = -1 →
    networkToSrpp (blank env w.lib) mem bytes w.lib.session.encryptionKey = .ok (0, msg) →
    ∃ w', (processReceivedData env F mem bytes).run w = .ok (some msg, w')
  defined : ∀ r w', (processReceivedData env F mem bytes).run w = .ok (r, w') → r ≠ none
  verified : ∀ r w', (verifySignallingValue env F mem).run w = .ok (r, w') → r ≠ none

/-- The paths that end with a `return`: the session was negotiated through SIP, or it is
disabled, with no HELLO out, and this is no signalling message; and if a HELLO is out,
nothing that looks like its answer has come. -/
def returnsValue (l : Lib) (mem : Mem) : Prop :=
  (bySip l ∨ isSignalingBuffer mem ≠ 1 ∧ l.flags.hellosent = false ∧ l.srppEnabled = 0) ∧
    (l.flags.hellosent = false ∨ ¬looksAnswered mem)

instance (l : Lib) (mem : Mem) : Decidable (returnsValue l mem) :=
  inferInstanceAs (Decidable (_ ∧ _))

theorem verified_of_unanswered (h : w.lib.flags.hellosent = false ∨ ¬looksAnswered mem)
    {r : Option ℤ} {w' : World δ} (hr : (verifySignallingValue env F mem).run w = .ok (r, w')) :
    r ≠ none := by
  cases hs : w.lib.flags.hellosent with
  | false =>
    rw [verifySignallingValue_idle env F hs] at hr
    cases hr
    simp
  | true =>
    have ha : ¬looksAnswered mem := h.resolve_left (by rw [hs]; decide)
    rcases verifySignallingValue_unanswered env F hs ha with ⟨n, u, -, hn⟩
    rw [hn] at hr
    cases hr
    simp

theorem answers_of_returnsValue (h : returnsValue w.lib mem) : Answers env F w mem bytes where
  delivered := by
    intro msg hc he hs hd
    rcases h.1 with hb | ⟨-, -, he'⟩
    · exact ⟨_, processReceivedData_delivers env F bytes hb hd⟩
    · rw [he'] at he
      cases he
  defined := by
    intro r w' hr
    by_cases hb : bySip w.lib
    · rw [processReceivedData_bySip env F bytes hb] at hr
      rcases run_bind_eq_ok hr with ⟨⟨status, msg⟩, v, -, hr⟩
      cases hr
      simp
    · obtain ⟨hs, hh, he⟩ := h.1.resolve_left hb
      obtain ⟨msg, rfl⟩ := processReceivedData_disabled env F bytes hb hs hh he hr
      simp
  verified := fun r w' hr => verified_of_unanswered env F h.2 hr

/-- The library answers on exactly the paths that return a value, wherever the handlers
it calls return. -/
theorem answers_iff_returnsValue :
    (returnsValue w.lib mem → Answers env F w mem bytes) ∧
      ((∃ r w', (processReceivedData env F mem bytes).run w = .ok (r, w')) →
        Answers env F w mem bytes → returnsValue w.lib mem) := by
  refine ⟨answers_of_returnsValue env F bytes, ?_⟩
  rintro ⟨r, w', hr⟩ ha
  have hsome := ha.defined r w' hr
  have hlast : w.lib.flags.hellosent = false ∨ ¬looksAnswered mem := by
    by_contra hn
    rw [not_or, not_not, Bool.not_eq_false] at hn
    exact ha.verified none w (verifySignallingValue_answered env F hn.1 hn.2) rfl
  refine ⟨or_iff_not_imp_left.mpr fun hb => ?_, hlast⟩
  have hs : isSignalingBuffer mem ≠ 1 := fun hs =>
    hsome (processReceivedData_signalling env F bytes hb hs hr)
  let v : World δ := { w with lib := w.lib.constructed }
  cases hh : w.lib.flags.hellosent with
  | false =>
    refine ⟨hs, rfl, ?_⟩
    by_contra he
    have hv : (verifySignallingValue env F mem).run v = .ok (some 0, v) :=
      verifySignallingValue_idle env F hh
    rw [processReceivedData_unverified env F bytes hb hs hv fun h => he h.2] at hr
    exact hsome (Prod.mk.inj (Except.ok.inj hr)).1.symm
  | true =>
    -- a message that is no answer is counted and dropped
    obtain ⟨n, u, hn, hv⟩ := @verifySignallingValue_unanswered δ env F mem v hh
      (hlast.resolve_left (by rw [hh]; decide))
    rw [processReceivedData_unverified env F bytes hb hs hv fun h => hn h.1] at hr
    exact absurd (Prod.mk.inj (Except.ok.inj hr)).1.symm hsome

/-- An enabled session with a negotiated key, in band or through SIP. -/
def negotiated (key : BitVec 32) (inBand : Bool) : World Unit :=
  ⟨{ Lib.start (.constant 0) with
      flags := { signalingComplete := true }, srppEnabled := 1
      session := { encryptionKey := key }, signalingBySrpp := inBand }, (), []⟩

/-- A host program that sends nothing and receives nothing. -/
def idleFunctors : Functors Unit := ⟨fun _ => pure 0, pure ()⟩

/-- Media of a session negotiated through SIP is answered. -/
theorem answers_bySip :
    Answers (.constant 0) idleFunctors (negotiated 7 false) (fun _ => 0) 100 ∧
      returnsValue (negotiated 7 false).lib (fun _ => 0) := by
  have hr : (processReceivedData (.constant 0) idleFunctors (fun _ => 0) 100).run
      (negotiated 7 false) = .ok (some _, _) :=
    processReceivedData_delivers _ _ _ (by decide) rfl
  have ha : Answers (.constant 0) idleFunctors (negotiated 7 false) (fun _ => 0) 100 :=
    (answers_iff_returnsValue _ _ _).1 (by decide)
  exact ⟨ha, (answers_iff_returnsValue _ _ _).2 ⟨_, _, hr⟩ ha⟩

/-- The same datagram in a session negotiated in band can be decoded, but the function ends
without a value. -/
theorem media_not_delivered :
    ∃ msg, networkToSrpp (blank (.constant 0) (negotiated 7 true).lib) (fun _ => 0) 100 7 =
        .ok (0, msg) ∧
      isSignalingBuffer (fun _ => 0) = -1 ∧
      ¬Answers (.constant 0) idleFunctors (negotiated 7 true) (fun _ => 0) 100 := by
  refine ⟨_, rfl, by decide, fun ha => ?_⟩
  obtain ⟨w', hr⟩ := ha.delivered _ rfl rfl (by decide) rfl
  rw [processReceivedData_unverified (.constant 0) idleFunctors 100 (by decide) (by decide)
    (verifySignallingValue_idle _ _ rfl) (by decide)] at hr
  cases hr

end Sqrkal.Handshake
