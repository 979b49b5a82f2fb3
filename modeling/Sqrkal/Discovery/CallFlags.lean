import Sqrkal.Discovery.CallLaw

/-! # What `parse_sip` does to the flags of a call

Everything but four branches of `parse_sip` leaves these flags alone, and each of the four
does one thing to them: a message is noted, a session starts by the flags, a BYE takes
effect before and after the session is stopped, and a message that already uses SRPP
stops the discovery.
-/

namespace Sqrkal.Discovery
open Foundation Message Library Relation

/-! ## What leaves the flags alone -/

/-- The queue, the ports of SIP, and the flags of the calls. -/
structure CallPart where
  queue : List (Option Packet)
  sipPorts : List ℤ
  call : CallFlags

def Globals.callPart (g : Globals) : CallPart := ⟨g.queue, g.sipPorts, g.call⟩

def KeepsCall (w w' : Process) : Prop := w'.ext.callPart = w.ext.callPart

theorem keepsCall_of_steps {w w' : Process} (h : ReflTransGen KeepsCall w w') : KeepsCall w w' := by
  induction h with
  | refl => rfl
  | tail _ hstep ih => exact hstep.trans ih

theorem keepsCall_permits : Permits KeepsCall Globals.callPart := fun _ _ h => h

theorem keepsCall_filter : Permits KeepsCall Globals.beyondFilter :=
  keepsCall_permits.weaken Globals.callPart fun _ => rfl

theorem keepsCall_address : Permits KeepsCall Globals.beyondAddress :=
  keepsCall_permits.weaken Globals.callPart fun _ => rfl

theorem keepsCall_kind : Permits KeepsCall Globals.beyondKind :=
  keepsCall_permits.weaken Globals.callPart fun _ => rfl

theorem keepsCall_ignores : IgnoresMedia KeepsCall where
  lib _ _ _ := rfl
  complete _ := rfl
  globals := keepsCall_permits.weaken (fun c => ⟨c.1.queue, c.1.sipPorts, c.2⟩) fun _ => rfl
  apply _ := rfl
  event _ _ _ := rfl

/-- Only the flags of the calls have changed. -/
def HasFlags (w : Process) (f : CallFlags) (w' : Process) : Prop :=
  w'.ext.callPart = { w.ext.callPart with call := f }

theorem HasFlags.keeps {u v w : Process} {f : CallFlags} (h : HasFlags u f v) (hw : KeepsCall v w) :
    HasFlags u f w := hw.trans h

theorem HasFlags.trans {u v w : Process} {f f' : CallFlags} (h : HasFlags u f v)
    (h' : HasFlags v f' w) : HasFlags u f' w := by
  unfold HasFlags at h h' ⊢
  rw [h', h]

theorem HasFlags.call {u v : Process} {f : CallFlags} (h : HasFlags u f v) : v.ext.call = f :=
  congrArg CallPart.call h

/-! ## What `parse_sip` does to the flags -/

section Parsing
variable {env : Env} {host : Host} {F : Functors Globals} {s : List Byte} {inward : Bool}
variable {w w' : Process}

/-- A description that does not end the discovery is read without reading anything else. -/
theorem parseProfile_keeps {m : ℕ} (h : (parseProfile env F s inward m).run w = .ok (true, w')) :
    KeepsCall w w' := by
  unfold parseProfile at h
  split_ifs at h
  · cases h
    rfl
  · cases h
    rfl
  · rcases run_bind_eq_ok h with ⟨_, u, -, hrest⟩
    cases hrest
  · cases h
    rfl
  · cases h
    rfl

theorem parseProfile_stops {m : ℕ} (h : (parseProfile env F s inward m).run w = .ok (false, w')) :
    (stopDiscovering env F).run w = .ok ((), w') := by
  unfold parseProfile at h
  split_ifs at h
  · cases h
  · cases h
  · rcases run_bind_eq_ok h with ⟨_, u, hu, hrest⟩
    cases hrest
    exact hu
  · cases h
  · cases h

theorem parseAudio_keeps_call {m : ℕ} (h : (parseAudio env host s inward).run w = .ok (m, w')) :
    KeepsCall w w' :=
  keepsCall_of_steps
    (parseAudio_within env host keepsCall_ignores.admits.quiet keepsCall_filter s inward w m w' h)

theorem parseConnection_keeps {l : ℕ} (h : (parseConnection host s inward l).run w = .ok ((), w')) :
    KeepsCall w w' :=
  keepsCall_of_steps (parseConnection_within host keepsCall_ignores.admits.quiet s inward l w () w' h)

/-- The session starts by the flags, or they stay. -/
theorem startMedia_cases (hon : w.ext.isSessionOn = false) (hseen : w.ext.sawInviteAlready = true)
    (h : (startMedia host s inward).run w = .ok ((), w')) :
    KeepsCall w w' ∨ w.ext.call.canStart = true ∧ HasFlags w { isSessionOn := true } w' := by
  rw [startMedia, run_get_bind] at h
  rcases run_bind_eq_ok h with ⟨_, u, hu, h⟩
  have hkeeps : KeepsCall w u := by
    split_ifs at hu
    · exact parseConnection_keeps hu
    · cases hu
      rfl
  rw [run_bind_ok (setGlobals_run _ _), run_get_bind] at h
  dsimp only at h
  have hcall : u.ext.call = w.ext.call := congrArg CallPart.call hkeeps
  split_ifs at h with hstart
  · refine .inr ⟨?_, ?_⟩
    · have hflags : (!w.ext.call.sentInvite && w.ext.call.sawAck ||
          w.ext.call.sentInvite && w.ext.call.saw200ok && w.ext.call.sawAck) = true := by
        rw [← hcall]
        exact hstart
      have hoff : w.ext.call.isSessionOn = false := hon
      have hinvite : w.ext.call.sawInviteAlready = true := hseen
      rw [CallFlags.canStart, hflags, hoff, hinvite]
      rfl
    · rcases run_bind_eq_ok h with ⟨_, v, hv, h⟩
      cases h
      have hrules := keepsCall_of_steps (addAllRtpRules_within keepsCall_filter.rules true true _ _ v hv)
      have hpart : v.ext.callPart = w.ext.callPart := hrules.trans hkeeps
      exact congrArg (fun c : CallPart => { c with call := { isSessionOn := true } }) hpart
  · cases h
    exact .inl hkeeps

variable {m : SipMessage} {r : ℤ}

theorem contains_of_ok (hk : m.kind = .ok) : contains m.content (text "200 OK") = true := by
  unfold SipMessage.kind sipKind at hk
  split_ifs at hk with _ _ hok
  exact hok

theorem contains_of_ack (hk : m.kind = .ack) : contains m.content (text "200 OK") = false := by
  unfold SipMessage.kind sipKind at hk
  split_ifs at hk with _ _ hok
  exact Bool.eq_false_iff.mpr hok

theorem callPart_ite {c : Prop} [Decidable c] {g g' : Globals} {p : CallPart} {f f' : CallFlags}
    (h : g.callPart = { p with call := f }) (h' : g'.callPart = { p with call := f' }) :
    (if c then g else g').callPart = { p with call := if c then f else f' } := by
  split_ifs
  · exact h
  · exact h'

/-- The first thing a 200 OK or an ACK does is to be noted. -/
theorem noteAnswer_flags (hk : m.kind = .ok ∨ m.kind = .ack) {u : Process}
    (h : (noteAnswer m.content m.inward).run w = .ok ((), u)) : HasFlags w (note m w.ext.call) u := by
  unfold noteAnswer at h
  unfold HasFlags note
  rcases hk with hk | hk
  · rw [if_pos (contains_of_ok hk)] at h
    cases h
    rw [hk]
    exact callPart_ite rfl rfl
  · rw [if_neg (by rw [contains_of_ack hk]; decide)] at h
    cases h
    rw [hk]
    exact callPart_ite rfl rfl

/-- All that a 200 OK or an ACK can do to the flags. -/
theorem parseOk_cases (hk : m.kind = .ok ∨ m.kind = .ack)
    (h : (parseOk env host F m.content m.inward).run w = .ok (r, w')) :
    HasFlags w (note m w.ext.call) w' ∨
    ((note m w.ext.call).canStart = true ∧ HasFlags w { isSessionOn := true } w') ∨
    ∃ u, HasFlags w (note m w.ext.call) u ∧ (stopDiscovering env F).run u = .ok ((), w') := by
  rw [parseOk_eq] at h
  rcases run_bind_eq_ok h with ⟨_, u, hnote, h⟩
  have hu := noteAnswer_flags hk hnote
  rcases run_bind_eq_ok h with ⟨goOn, v, hprofile, h⟩
  unfold readAnswer at hprofile
  cases goOn with
  | false =>
    -- the message already uses SRPP
    cases h
    split_ifs at hprofile
    · rcases run_bind_eq_ok hprofile with ⟨l, t, haudio, hprofile⟩
      exact .inr (.inr ⟨t, hu.keeps (parseAudio_keeps_call haudio), parseProfile_stops hprofile⟩)
    · cases hprofile
  | true =>
    have hv : HasFlags w (note m w.ext.call) v := by
      refine hu.keeps ?_
      split_ifs at hprofile
      · rcases run_bind_eq_ok hprofile with ⟨l, t, haudio, hprofile⟩
        exact (parseProfile_keeps hprofile).trans (parseAudio_keeps_call haudio)
      · cases hprofile
        rfl
    rw [startIfReady, Bool.not_true, if_neg Bool.false_ne_true, run_get_bind] at h
    dsimp only at h
    split_ifs at h with hports hstart
    · cases h
      exact .inl hv
    · rcases run_bind_eq_ok h with ⟨_, t, ht, h⟩
      cases h
      simp only [Bool.and_eq_true, Bool.not_eq_true'] at hstart
      rcases startMedia_cases hstart.1 hstart.2 ht with hkeeps | ⟨hcan, hflags⟩
      · exact .inl (hv.keeps hkeeps)
      · exact .inr (.inl ⟨hv.call ▸ hcan, hv.trans hflags⟩)
    · rcases run_bind_eq_ok h with ⟨_, t, ht, h⟩
      cases ht
      cases h
      exact .inl hv

theorem parseProfile_reads (hgo : inward = true ∨ endsDiscovery host s = false) {l : ℕ} {goOn : Bool}
    {u : Process} (haudio : (parseAudio env host s inward).run w = .ok (l, u))
    (h : (parseProfile env F s inward l).run u = .ok (goOn, w')) : goOn = true := by
  rcases hgo with hin | hends
  · subst hin
    unfold parseProfile at h
    split_ifs at h with _ _ _ hout
    · cases h
      rfl
    · cases h
      rfl
    · exact absurd hout (by decide)
    · cases h
      rfl
    · cases h
      rfl
  · exact parseProfile_goOn (parseAudio_profile hends haudio) h

theorem setServer_keeps {name : List Byte} (h : (setServer host name).run w = .ok ((), w')) :
    KeepsCall w w' :=
  keepsCall_of_steps (setServer_within host keepsCall_address name w () w' h)

theorem finishInvite_flags (h : (finishInvite host s inward).run w = .ok (r, w')) :
    HasFlags w { w.ext.call with sentInvite := w.ext.sentInvite || !inward } w' := by
  rcases run_bind_eq_ok h with ⟨_, u, hconnection, h⟩
  have hu : KeepsCall w u := by
    split_ifs at hconnection
    · exact parseConnection_keeps hconnection
    · cases hconnection
      rfl
  cases inward with
  | true =>
    cases h
    rw [Bool.not_true, Bool.or_false]
    exact hu
  | false =>
    rw [if_neg Bool.false_ne_true, run_bind_ok (setGlobals_run _ _)] at h
    rcases run_bind_eq_ok h with ⟨name, v, hname, h⟩
    rcases run_bind_eq_ok h with ⟨_, t, hserver, h⟩
    cases h
    have hcall : u.ext.call = w.ext.call := congrArg CallPart.call hu
    have hsent : HasFlags u { u.ext.call with sentInvite := true } t :=
      (setServer_keeps hserver).trans (keepsCall_of_steps (substrOp_within _ _ _ _ name v hname))
    rw [hcall] at hsent
    rw [Bool.not_false, Bool.or_true]
    exact HasFlags.trans hu hsent

/-- An INVITE is noted. -/
theorem parseInvite_note (hk : m.kind = .invite)
    (hgo : m.inward = true ∨ endsDiscovery host m.content = false)
    (h : (parseInvite env host F m.content m.inward).run w = .ok (r, w')) :
    HasFlags w (note m w.ext.call) w' := by
  rw [parseInvite_eq, run_bind_ok (setGlobals_run _ _)] at h
  rcases run_bind_eq_ok h with ⟨l, u, haudio, h⟩
  rcases run_bind_eq_ok h with ⟨goOn, v, hprofile, h⟩
  cases parseProfile_reads hgo haudio hprofile
  have hseen : HasFlags w { w.ext.call with sawInviteAlready := true } v :=
    (parseProfile_keeps hprofile).trans (parseAudio_keeps_call haudio)
  have hsent := finishInvite_flags h
  rw [hseen.call, show v.ext.sentInvite = w.ext.sentInvite from
    congrArg CallFlags.sentInvite hseen.call] at hsent
  unfold note
  rw [hk]
  exact hseen.trans hsent

/-- All that a BYE can do to the flags. -/
theorem parseBye_cases (h : (parseBye env F).run w = .ok (r, w')) :
    (w.ext.sawByeAlready = true ∧ w' = w) ∨
    (w.ext.sawByeAlready = false ∧ ∃ u v, HasFlags w { w.ext.call with isSessionOn := false } u ∧
      (w.ext.applySrpp = false ∧ v = u ∨
        w.ext.applySrpp = true ∧ ∃ status, (stopSession env F).run u = .ok (status, v)) ∧
      HasFlags v { v.ext.call with sawInviteAlready := false } w') := by
  rw [parseBye, run_get_bind] at h
  split_ifs at h with hsaw
  · cases h
    exact .inl ⟨hsaw, rfl⟩
  rw [run_get_bind] at h
  rcases run_bind_eq_ok h with ⟨_, u, hset, h⟩
  have hu : HasFlags w { w.ext.call with isSessionOn := false } u := by
    cases hset
    rfl
  have happlied : u.ext.applySrpp = w.ext.applySrpp := by
    cases hset
    rfl
  rw [run_get_bind] at h
  rcases run_bind_eq_ok h with ⟨_, v, hstop, h⟩
  refine .inr ⟨Bool.eq_false_iff.mpr hsaw, u, v, hu, ?_, ?_⟩
  · rw [happlied] at hstop
    split_ifs at hstop with happly
    · rcases run_bind_eq_ok hstop with ⟨status, v', hv', hrest⟩
      cases hrest
      exact .inr ⟨happly, status, hv'⟩
    · cases hstop
      exact .inl ⟨Bool.eq_false_iff.mpr happly, rfl⟩
  · rcases run_bind_eq_ok h with ⟨_, t, hrules, h⟩
    cases h
    have ht := keepsCall_of_steps (addAllRtpRules_within keepsCall_filter.rules false true _ _ t hrules)
    exact congrArg (fun c : CallPart => { c with call := { c.call with sawInviteAlready := false } }) ht

/-- All that a message can do to the flags. -/
theorem parseSip_cases (hgo : m.kind = .invite → m.inward = true ∨ endsDiscovery host m.content = false)
    (h : (parseSip env host F m.content m.inward).run w = .ok (r, w')) :
    (m.kind = .bye ∧ (parseBye env F).run w = .ok (r, w')) ∨
    (m.kind ≠ .bye ∧ HasFlags w (note m w.ext.call) w') ∨
    ((m.kind = .ok ∨ m.kind = .ack) ∧ ((note m w.ext.call).canStart = true ∧
        HasFlags w { isSessionOn := true } w' ∨
      ∃ u, HasFlags w (note m w.ext.call) u ∧ (stopDiscovering env F).run u = .ok ((), w'))) := by
  have hother : m.kind = .rejection ∨ m.kind = .other → KeepsCall w w' →
      m.kind ≠ .bye ∧ HasFlags w (note m w.ext.call) w' := by
    intro hk hkeeps
    unfold HasFlags note
    rcases hk with hk | hk
    · rw [hk]
      exact ⟨nofun, hkeeps⟩
    · rw [hk]
      exact ⟨nofun, hkeeps⟩
  have hback : (do backToServer; return 0 : Op ℤ).run w = .ok (r, w') → KeepsCall w w' := by
    intro hrun
    cases hrun
    rfl
  have hM := keepsCall_ignores.admits.quiet
  have hserver := setServer_within host keepsCall_address
  unfold parseSip at h
  split_ifs at h with hb he ho hi hr hs
  · exact .inl ⟨by simp [SipMessage.kind, sipKind, hb], h⟩
  · exact .inr (.inl (hother (.inl (by simp [SipMessage.kind, sipKind, hb, he])) (hback h)))
  · have hk : m.kind = .ok ∨ m.kind = .ack := by
      by_cases hok : contains m.content (text "200 OK") = true
      · exact .inl (by simp [SipMessage.kind, sipKind, hb, he, hok])
      · have hack : contains m.content (text "ACK ") = true := by simpa [hok] using ho
        exact .inr (by simp [SipMessage.kind, sipKind, hb, he, hok, hack])
    rcases parseOk_cases hk h with hnote | hrest
    · refine .inr (.inl ⟨fun hbye => ?_, hnote⟩)
      rw [hbye] at hk
      exact hk.elim nofun nofun
    · exact .inr (.inr ⟨hk, hrest⟩)
  · simp only [Bool.or_eq_true, not_or] at ho
    have hk : m.kind = .invite := by
      unfold SipMessage.kind sipKind
      rw [if_neg hb, if_neg he, if_neg ho.1, if_neg ho.2, if_pos hi]
    exact .inr (.inl ⟨by rw [hk]; nofun, parseInvite_note hk (hgo hk) h⟩)
  all_goals
    simp only [Bool.or_eq_true, not_or] at ho
    have hk : m.kind = .other := by
      unfold SipMessage.kind sipKind
      rw [if_neg hb, if_neg he, if_neg ho.1, if_neg ho.2, if_neg hi]
  · exact .inr (.inl (hother (.inr hk)
      (keepsCall_of_steps (parseRegister_within host hM hserver _ _ w r w' h))))
  · exact .inr (.inl (hother (.inr hk)
      (keepsCall_of_steps (parseSubscribe_within host hM hserver _ _ w r w' h))))
  · exact .inr (.inl (hother (.inr hk) (hback h)))

end Parsing

end Sqrkal.Discovery
