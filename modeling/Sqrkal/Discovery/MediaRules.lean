import Sqrkal.Discovery.Checked

/-! # The packet filter and `rtp_added`

`add_all_rtp_rules` adds and removes the rules of the current `inport`, and takes no
notice of a removal that fails. So the rules follow the flag as long as no outgoing
session description changes `inport` while they are installed.
-/

namespace Sqrkal.Discovery
open Foundation Message Library Relation

/-- The rules of `add_all_rtp_rules`. -/
def mediaRules (port ttl : ℤ) : List Rule :=
  [⟨.input, true, .destination port, ttl⟩, ⟨.output, true, .source port, ttl⟩]

/-- The installed rules that are not those for SIP. -/
def rtpRules (g : Globals) : List Rule := g.firewall.filter fun r => r ∉ sipRules g.srppTtl

/-- The rules for media that `rtp_added` stands for. -/
def expectedRules (g : Globals) : List Rule :=
  if g.rtpAdded then mediaRules g.inport g.srppTtl else []

/-- Besides those for SIP exactly the expected rules are installed. -/
def RulesMatch (g : Globals) : Prop := (rtpRules g).Perm (expectedRules g)

instance (g : Globals) : Decidable (RulesMatch g) := inferInstanceAs (Decidable (List.Perm _ _))

/-! ## The port of a session description -/

/-- The text from `skip` behind the place `l` to the next of some characters. -/
def fieldOf (host : Host) (s : List Byte) (l skip : ℕ) (stop : List Byte) : Option (List Byte) :=
  let m := uintPosition host (findFirstOf s stop (toUint (l + skip)))
  substr s (toUint (l + skip)) (toUint (m - l - skip))

/-- The port `parse_sip` finds in a session description. -/
def audioPort (host : Host) (s : List Byte) : Option ℤ :=
  let l := uintPosition host (find s (text "m=audio ") 0)
  if isFound host l then (fieldOf host s l 8 (text " ")).map atoi else none

/-- An outgoing description names the port that is in use, if there is one, and never the
port of SIP. -/
def portFits (host : Host) (g : Globals) (s : List Byte) (inward : Bool) : Bool :=
  inward || !describesMedia s ||
    match audioPort host s with
    | none => true
    | some port => decide (port ≠ 5060 ∧ (g.rtpAdded = true → port = g.inport))

/-- Every SIP message that is processed has a fitting port. -/
def fittingPorts (host : Host) : Condition where
  arrival _ _ := true
  reading handled w :=
    match nextPacket w.ext with
    | none => true
    | some p => !isProcessed handled p || !decide (IsSip w.ext.sipPorts p) ||
        portFits host w.ext (sipText p) (isInward host p)

theorem fieldAfter_ok {host : Host} {s : List Byte} {l skip : ℕ} {stop : List Byte} {w w' : Process}
    {r : List Byte × ℕ} (h : (fieldAfter host s l skip stop).run w = .ok (r, w')) :
    fieldOf host s l skip stop = some r.1 ∧ w' = w := by
  rcases run_bind_eq_ok h with ⟨field, u, hsub, h⟩
  cases h
  unfold substrOp at hsub
  unfold fieldOf
  dsimp only
  cases hs : substr s (toUint (l + skip))
      (toUint (uintPosition host (findFirstOf s stop (toUint (l + skip))) - l - skip)) with
  | none =>
    rw [hs] at hsub
    cases hsub
  | some t =>
    rw [hs] at hsub
    cases hsub
    exact ⟨rfl, rfl⟩

/-- An outgoing description sets `inport` to its port, if it has one. -/
theorem parseAudio_outward {env : Env} {host : Host} {s : List Byte} {w w' : Process} {m : ℕ}
    (h : (parseAudio env host s false).run w = .ok (m, w')) :
    w'.ext = w.ext ∨ ∃ port, audioPort host s = some port ∧ w'.ext = { w.ext with inport := port } := by
  unfold parseAudio at h
  unfold audioPort
  by_cases hfound : isFound host (uintPosition host (find s (text "m=audio ") 0)) = true
  · dsimp only at h ⊢
    rw [if_pos hfound] at h
    rcases run_bind_eq_ok h with ⟨⟨field, m'⟩, u, hfield, hrest⟩
    rcases fieldAfter_ok hfield with ⟨hf, rfl⟩
    cases hrest
    exact .inr ⟨atoi field, by rw [if_pos hfound, hf]; rfl, rfl⟩
  · dsimp only at h
    rw [if_neg hfound] at h
    cases h
    exact .inl rfl

/-! ## The invariant -/

/-- Rule by rule, the installed rules are the expected ones, and the port of the rules is
not that of SIP. -/
structure RulesTracked (g : Globals) : Prop where
  count : ∀ r, r ∉ sipRules g.srppTtl → g.firewall.count r = (expectedRules g).count r
  port : g.inport ≠ 5060

/-- The steps that keep the invariant. -/
def KeepsRules (w w' : Process) : Prop := RulesTracked w.ext → RulesTracked w'.ext

theorem mediaRules_not_sip {port ttl : ℤ} (h : port ≠ 5060) {r : Rule} (hr : r ∈ mediaRules port ttl) :
    r ∉ sipRules ttl := by
  simp only [mediaRules, List.mem_cons, List.not_mem_nil, or_false] at hr
  rcases hr with rfl | rfl
  · simp [sipRules, h]
  · simp [sipRules]

theorem count_expectedRules_le (g : Globals) (r : Rule) :
    (expectedRules g).count r ≤ (mediaRules g.inport g.srppTtl).count r := by
  unfold expectedRules
  split_ifs
  · exact le_rfl
  · exact Nat.zero_le _

theorem RulesTracked.rulesMatch {g : Globals} (h : RulesTracked g) : RulesMatch g := by
  refine List.perm_iff_count.mpr fun r => ?_
  by_cases hr : r ∈ sipRules g.srppTtl
  · have hleft : (rtpRules g).count r = 0 :=
      List.count_eq_zero.mpr fun hm => of_decide_eq_true (List.mem_filter.mp hm).2 hr
    have hright : (expectedRules g).count r = 0 := by
      refine List.count_eq_zero.mpr fun hm => ?_
      unfold expectedRules at hm
      split_ifs at hm with ha
      · exact mediaRules_not_sip h.port hm hr
      · cases hm
    rw [hleft, hright]
  · have hcount : (rtpRules g).count r = g.firewall.count r :=
      List.count_filter (p := fun r => decide (r ∉ sipRules g.srppTtl)) (decide_eq_true hr)
    rw [hcount, h.count r hr]

section Steps

theorem keepsRules_permits :
    Permits KeepsRules fun g => (g.firewall, g.rtpAdded, g.inport, g.srppTtl) := by
  intro w g hpart hw
  simp only [Prod.mk.injEq] at hpart
  rcases hpart with ⟨hfw, hadded, hport, httl⟩
  refine ⟨fun r hr => ?_, by rw [hport]; exact hw.port⟩
  rw [httl] at hr
  have hexpected : expectedRules g = expectedRules w.ext := by
    unfold expectedRules
    rw [hadded, hport, httl]
  rw [hfw, hexpected]
  exact hw.count r hr

theorem keepsRules_flow : Permits KeepsRules Globals.beyondFlow :=
  keepsRules_permits.weaken (fun g => (g.firewall, g.rtpAdded, g.inport, g.srppTtl)) fun _ => rfl

theorem keepsRules_address : Permits KeepsRules Globals.beyondAddress :=
  keepsRules_permits.weaken (fun g => (g.firewall, g.rtpAdded, g.inport, g.srppTtl)) fun _ => rfl

theorem keepsRules_ignores : Ignores KeepsRules where
  lib _ _ _ := id
  complete _ := id
  globals := keepsRules_permits.weaken (fun c => (c.firewall, c.rtpAdded, c.inport, c.srppTtl))
    fun _ => rfl
  apply _ h := ⟨h.count, h.port⟩
  event _ _ _ := id

/-- `iptables -D`, whether there is such a rule or not. -/
theorem deleteRule_run (r : Rule) (w : Process) : ∃ status, (deleteRule r).run w =
    .ok (status, { w with ext := { w.ext with firewall := w.ext.firewall.erase r } }) := by
  rw [deleteRule, run_get_bind]
  split_ifs with h
  · exact ⟨0, rfl⟩
  · rw [List.erase_of_not_mem h]
    exact ⟨1, rfl⟩

/-- Removing goes on when a rule is missing. -/
theorem removeRules_run (inward outward : Rule) (f : Globals → Globals) (w : Process) :
    (changeRules false inward outward f).run w = .ok (0, { w with
      ext := f { w.ext with firewall := (w.ext.firewall.erase inward).erase outward } }) := by
  rcases deleteRule_run inward w with ⟨a, ha⟩
  obtain ⟨b, hb⟩ := deleteRule_run outward
    { w with ext := { w.ext with firewall := w.ext.firewall.erase inward } }
  rw [changeRules, run_bind_ok (show (changeRule false inward).run w = _ from ha), if_neg (by simp),
    run_bind_ok (show (changeRule false outward).run _ = _ from hb), if_neg (by simp)]
  rfl

/-- Adding sets the flag and appends the rules of the current port. -/
theorem addRtpRules_keeps : Within KeepsRules (addAllRtpRules true true) := by
  intro w
  rw [addAllRtpRules]
  refine .get_bind ?_
  dsimp only
  split_ifs with h
  · exact Within.pure _ w
  · intro r w' hr
    cases hr
    refine .single fun hw => ⟨fun r hr => ?_, hw.port⟩
    have hadded : w.ext.rtpAdded = false := by simpa using h
    have hcount := hw.count r hr
    rw [expectedRules, hadded] at hcount
    have hnone : w.ext.firewall.count r = 0 := hcount
    change List.count r (w.ext.firewall ++ [_] ++ [_]) = List.count r (mediaRules _ _)
    rw [List.append_assoc, List.count_append, hnone, zero_add]
    rfl

/-- Removing clears the flag, and the rules of the port are gone. -/
theorem removeRtpRules_keeps : Within KeepsRules (addAllRtpRules false true) := by
  intro w
  rw [addAllRtpRules]
  refine .get_bind ?_
  dsimp only
  rw [if_neg (by simp)]
  refine .of_run (removeRules_run _ _ _ w) fun hw => ⟨fun r hr => ?_, hw.port⟩
  have hcount := hw.count r hr
  change List.count r ((w.ext.firewall.erase _).erase _) = 0
  have hle := count_expectedRules_le w.ext r
  simp only [mediaRules, List.count_cons, List.count_nil] at hle
  rw [List.count_erase, List.count_erase, hcount]
  omega

/-- The rules for SIP are none of those counted. -/
theorem removeSipRules_keeps : Within KeepsRules (addAllRules false true) := by
  intro w
  rw [addAllRules]
  refine .get_bind ?_
  dsimp only
  rw [if_neg (by simp)]
  refine .of_run (removeRules_run _ _ _ w) fun hw => ⟨fun r hr => ?_, hw.port⟩
  have hne : ∀ s ∈ sipRules w.ext.srppTtl, r ≠ s := fun s hs he => hr (he ▸ hs)
  change List.count r ((w.ext.firewall.erase _).erase _) = _
  rw [List.count_erase_of_ne (hne _ (by simp [sipRules])),
    List.count_erase_of_ne (hne _ (by simp [sipRules]))]
  exact hw.count r hr

/-- A fitting port keeps the rules those of `inport`. -/
theorem parseAudio_keeps {env : Env} {host : Host} {s : List Byte} {inward : Bool} {w : Process}
    (hd : describesMedia s = true) (h : portFits host w.ext s inward = true) :
    WithinAt KeepsRules w (parseAudio env host s inward) := by
  cases inward with
  | true =>
    have hin : Within KeepsRules (parseAudio env host s true) :=
      .ite (.bind (fieldAfter_within host _ _ _ _) fun _ =>
        .bind (keepsRules_ignores.admits.setGlobals fun _ => rfl) fun _ => .pure _)
        (.bind (keepsRules_ignores.onLib nextTick_within) fun _ => .pure _)
    exact hin w
  | false =>
    intro m w' hr
    rcases parseAudio_outward hr with hext | ⟨port, hport, hext⟩
    · exact .single fun hw => by rwa [hext]
    · rw [portFits, hd, hport] at h
      have hfit : port ≠ 5060 ∧ (w.ext.rtpAdded = true → port = w.ext.inport) := by
        simpa only [Bool.false_or, Bool.not_true, decide_eq_true_eq] using h
      refine .single fun hw => ⟨fun r hr => ?_, by rw [hext]; exact hfit.1⟩
      have hsame : expectedRules { w.ext with inport := port } = expectedRules w.ext := by
        unfold expectedRules
        dsimp only
        split_ifs with ha
        · rw [hfit.2 ha]
        · rfl
      rw [hext] at hr ⊢
      rw [hsame]
      exact hw.count r hr

end Steps

/-! ## Messages, packets, runs -/

section Runs
variable {env : Env} {host : Host} {F : Functors Globals}

/-- What `parse_sip` finds fitting does not depend on the flow of packets. -/
theorem portFits_congr {g g' : Globals} (h : g.inport = g'.inport) (ha : g.rtpAdded = g'.rtpAdded)
    (s : List Byte) (inward : Bool) : portFits host g s inward = portFits host g' s inward := by
  unfold portFits
  rw [h, ha]

theorem parseSip_keeps (hF : Holds KeepsRules F) {s : List Byte} {inward : Bool} {w : Process}
    (h : portFits host w.ext s inward = true) :
    WithinAt KeepsRules w (parseSip env host F s inward) := by
  have hR := keepsRules_ignores
  have hstop := stopSession_within env hR.toAllows hF
  refine parseSip_within env host hR.admits.calls
    (parseProfile_within env hR.admits.media.quiet
      (stopDiscovering_within env hR.admits.media.quiet hstop removeSipRules_keeps) s inward)
    (fun hd u hu => parseAudio_keeps hd ?_) (fun _ => parseBye_within_of_free env hR hstop removeRtpRules_keeps w)
    (startMedia_within host hR.admits.calls (hR.admits.setGlobals fun _ => rfl) addRtpRules_keeps s inward)
    (setServer_within host keepsRules_address)
  have hport := congrArg Core.inport hu
  have hadded := congrArg Core.rtpAdded hu
  exact (portFits_congr hport hadded s inward).trans h

theorem processPacket_keeps (hF : Holds KeepsRules F) {p : Packet} {w : Process}
    (h : IsSip w.ext.sipPorts p → portFits host w.ext (sipText p) (isInward host p) = true) :
    WithinAt KeepsRules w (processPacket env host F p) := by
  have hR := keepsRules_ignores
  refine processPacket_within env host hR.admits.media.quiet (fun _ _ _ => id) keepsRules_flow.kind
    (handleRtp_within env (fun _ _ _ => id) keepsRules_flow.kind hR.admits.media
      (prepareInbound_within_of_free env hR.media hF) (prepareOutbound_within_of_free env hR.media hF))
    (fun hs u hu => parseSip_keeps hF ?_)
  have hport := congrArg Globals.inport hu
  have hadded := congrArg Globals.rtpAdded hu
  exact (portFits_congr hport hadded _ _).trans (h hs)

/-- The packet of a checked read fits in the state in which it is processed. -/
theorem fittingPorts_reading {handled : List Packet} {p : Packet} {u w : Process}
    (h : (fittingPorts host).reading handled w = true) (hnext : nextPacket w.ext = some p)
    (hp : isProcessed handled p = true) (hu : u.ext.beyondFlow = w.ext.beyondFlow)
    (hs : IsSip u.ext.sipPorts p) : portFits host u.ext (sipText p) (isInward host p) = true := by
  have hports := congrArg Globals.sipPorts hu
  have hport := congrArg Globals.inport hu
  have hadded := congrArg Globals.rtpAdded hu
  have hsip : IsSip w.ext.sipPorts p := by
    rw [← show u.ext.sipPorts = w.ext.sipPorts from hports]
    exact hs
  rw [show portFits host u.ext (sipText p) (isInward host p) =
    portFits host w.ext (sipText p) (isInward host p) from portFits_congr hport hadded _ _]
  simpa [fittingPorts, hnext, hp, hsip] using h

theorem checkedFunctors_keep (n : ℕ) (handled : List Packet) :
    Holds KeepsRules (checkedFunctors env host (fittingPorts host) n handled) := by
  have hR := keepsRules_ignores
  have hsend := sendRtpMessage_within env hR.admits.media.quiet keepsRules_address
  refine ⟨fun d => by rw [checkedFunctors_send]; exact hsend d, ?_⟩
  refine checkedFunctors_receive (R := fun _ => KeepsRules)
    (fun _ => hR.onLib (unusedMessage_within env)) (fun handled w F hc hs hr => ?_) n handled
  have hF : Holds KeepsRules F := ⟨fun d => by rw [hs]; exact hsend d, hr⟩
  refine receiveRtpMessage_within hR.toAllows keepsRules_flow
    (processReceivedData_within env hR.toAllows hF) fun p u hnext hp hu => processPacket_keeps hF ?_
  exact fittingPorts_reading hc hnext (by simp [isProcessed, hp]) hu

theorem checkedRound_keeps {n : ℕ} {w w' : Process} (hc : (fittingPorts host).reading [] w = true)
    (h : (checkedRound env (fittingPorts host) (processPacket env host) n).run w = .ok ((), w')) :
    ReflTransGen KeepsRules w w' := by
  have hread : KeepsRules w (dequeued (holding w)) := fun hw => ⟨hw.count, hw.port⟩
  refine roundWith_within (.single hread) (fun p hnext => ?_) () w' h
  exact processPacket_keeps (checkedFunctors_keep n [p]) (fittingPorts_reading hc hnext rfl rfl)

theorem checkedStep_keeps {w w' : Process} (h : CheckedStep env host (fittingPorts host) w w') :
    ReflTransGen KeepsRules w w' := by
  cases h with
  | arrive p _ => exact .single fun hw => ⟨hw.count, hw.port⟩
  | round n _ hc h => exact checkedRound_keeps hc h
  | again n q _ _ _ hc h =>
    have hrefill : KeepsRules w (refilled w q) := fun hw => ⟨hw.count, hw.port⟩
    exact .head hrefill (checkedRound_keeps hc h)
  | tick n h =>
    exact timerFired_within env keepsRules_ignores.toAllows (checkedFunctors_keep n []).send w () w' h

theorem rulesTracked_run {w w' : Process}
    (h : ReflTransGen (CheckedStep env host (fittingPorts host)) w w') (hw : RulesTracked w.ext) :
    RulesTracked w'.ext := by
  induction h with
  | refl => exact hw
  | tail _ hstep ih =>
    have hkeeps := checkedStep_keeps hstep
    clear hstep
    induction hkeeps with
    | refl => exact ih
    | tail _ hk ih' => exact hk ih'

theorem rulesTracked_begin {option : ℤ} {w : Process} (h : Begins env option w) :
    RulesTracked w.ext := by
  rcases h.globals with ⟨-, ttl, hext⟩
  rw [hext]
  refine ⟨fun r hr => ?_, show (0 : ℤ) ≠ 5060 by decide⟩
  exact List.count_eq_zero.mpr hr

/-- In every run in which outgoing session descriptions keep the port of installed rules,
the rules are at every time those that `rtp_added` stands for. -/
theorem rules_match_of_fittingPorts {option : ℤ} {w₀ w : Process} (h₀ : Begins env option w₀)
    (hrun : ReflTransGen (CheckedStep env host (fittingPorts host)) w₀ w) : RulesMatch w.ext :=
  (rulesTracked_run hrun (rulesTracked_begin h₀)).rulesMatch

end Runs

/-! ## Two calls -/

/-- An INVITE, the answer to it and its ACK start a call on port 4000. -/
def callSetup : List (Option Packet) :=
  [some (sentSip 1 "INVITE sip:a@b c=IN IP4 1.2.3.4 Content-Type: application/sdp m=audio 4000 RTP/AVP 0"),
    some (receivedSip 2 "200 OK c=IN IP4 1.2.3.5 Content-Type: application/sdp m=audio 4100 RTP/AVP 0"),
    some (sentSip 3 "ACK Route:")]

/-- A second INVITE during the call moves the media to port 4002, the rules stay at 4000. -/
theorem reinvite_leaves_old_rules : ∃ w₀ w, Begins (Env.constant 0) 0 w₀ ∧
    ReflTransGen (Step (Env.constant 0) localHost) w₀ w ∧ w.ext.rtpAdded = true ∧
    w.ext.inport = 4002 ∧ ¬RulesMatch w.ext := by
  have hcheck : endsIn (session (Env.constant 0) localHost 0 (callSetup ++
      [some (sentSip 4
        "INVITE sip:a@b c=IN IP4 1.2.3.4 Content-Type: application/sdp m=audio 4002 RTP/AVP 0")]) 1 4)
      (atMain (Env.constant 0))
      (fun w => decide (w.ext.rtpAdded = true ∧ w.ext.inport = 4002 ∧ ¬RulesMatch w.ext)) = true := by
    decide +kernel
  rcases endsIn_run hcheck with ⟨_, w, hrun, hw⟩
  rcases session_run hrun with ⟨w₀, h₀, hsteps⟩
  exact ⟨w₀, w, h₀, hsteps, of_decide_eq_true hw⟩

/-- In a call without a second description the rules for its port are installed. -/
theorem rules_match_in_call : ∃ w₀ w, Begins (Env.constant 0) 0 w₀ ∧
    ReflTransGen (CheckedStep (Env.constant 0) localHost (fittingPorts localHost)) w₀ w ∧
    w.ext.rtpAdded = true ∧ w.ext.inport = 4000 ∧ RulesMatch w.ext := by
  have hcheck : endsIn (do
      startDiscovering (Env.constant 0) 0
      arriveAll (fittingPorts localHost) callSetup
      checkedLoop (Env.constant 0) (fittingPorts localHost) (processPacket (Env.constant 0) localHost)
        1 3) (atMain (Env.constant 0))
      (fun w => decide (w.ext.rtpAdded = true ∧ w.ext.inport = 4000)) = true := by decide +kernel
  rcases checked_session hcheck with ⟨w₀, w, h₀, hrun, hw⟩
  rcases of_decide_eq_true hw with ⟨hadded, hport⟩
  exact ⟨w₀, w, h₀, hrun, hadded, hport, rules_match_of_fittingPorts h₀ hrun⟩

end Sqrkal.Discovery
