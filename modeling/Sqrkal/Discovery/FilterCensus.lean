import Sqrkal.Discovery.Marking

/-! # Which packets are queued

The rules for SIP stand as long as the process discovers, and the rules for media come and go
in pairs. So outgoing SIP is intercepted until the discovery ends, and a media stream is
intercepted in both directions or in neither.
-/

namespace Sqrkal.Discovery
open Foundation Mem Message Library Relation

def inRule (port ttl : ℤ) : Rule := ⟨.input, true, .destination port, ttl⟩

def outRule (port ttl : ℤ) : Rule := ⟨.output, true, .source port, ttl⟩

/-- The rule for outgoing SIP. -/
def sipOutRule (ttl : ℤ) : Rule := ⟨.output, true, .destination 5060, ttl⟩

/-- What the filter holds, whatever descriptions have changed the port meanwhile. -/
structure Census (g : Globals) : Prop where
  flag : g.udpAdded = g.isDiscovering
  outward : g.firewall.count (sipOutRule g.srppTtl) = if g.isDiscovering then 1 else 0
  pairs : ∀ port, port ≠ 5060 →
    g.firewall.count (inRule port g.srppTtl) = g.firewall.count (outRule port g.srppTtl)
  known : ∀ r ∈ g.firewall, r ∈ sipRules g.srppTtl ∨ ∃ port, r ∈ mediaRules port g.srppTtl

section Lists
variable {rules : List Rule} {port ttl : ℤ}

theorem count_sipOut_diff_media : (rules.diff (mediaRules port ttl)).count (sipOutRule ttl) =
    rules.count (sipOutRule ttl) := by
  simp [mediaRules, sipOutRule, List.diff_cons]

theorem count_sipOut_append_media : (rules ++ mediaRules port ttl).count (sipOutRule ttl) =
    rules.count (sipOutRule ttl) := by
  simp [mediaRules, sipOutRule]

theorem count_sipOut_diff_sip : (rules.diff (sipRules ttl)).count (sipOutRule ttl) =
    rules.count (sipOutRule ttl) - 1 := by
  simp [sipRules, sipOutRule, List.diff_cons]

variable {other : ℤ} (h : rules.count (inRule other ttl) = rules.count (outRule other ttl))
include h

/-- Both rules of a pair are removed, or neither. -/
theorem pairs_diff_media : (rules.diff (mediaRules port ttl)).count (inRule other ttl) =
    (rules.diff (mediaRules port ttl)).count (outRule other ttl) := by
  simp only [inRule, outRule] at h
  simp [mediaRules, inRule, outRule, List.diff_cons, List.count_erase, h]

theorem pairs_append_media : (rules ++ mediaRules port ttl).count (inRule other ttl) =
    (rules ++ mediaRules port ttl).count (outRule other ttl) := by
  simp only [inRule, outRule] at h
  simp [mediaRules, inRule, outRule, List.count_cons, h]

/-- The rules for SIP are no part of a pair on another port. -/
theorem pairs_diff_sip (ho : other ≠ 5060) : (rules.diff (sipRules ttl)).count (inRule other ttl) =
    (rules.diff (sipRules ttl)).count (outRule other ttl) := by
  simp only [inRule, outRule] at h
  simp [sipRules, inRule, outRule, List.diff_cons, h, ho]

end Lists

/-! ## Runs -/

section Runs
variable {env : Env} {host : Host} {option : ℤ} {w w' : Process}

theorem Census.congr {g g' : Globals} (h : Census g) (hface : g'.face = g.face) : Census g' := by
  have httl : g'.srppTtl = g.srppTtl := congrArg Face.srppTtl hface
  have hrules : g'.firewall = g.firewall := congrArg Face.firewall hface
  have hflag : g'.udpAdded = g.udpAdded := congrArg Face.udpAdded hface
  have hon : g'.isDiscovering = g.isDiscovering := congrArg Face.isDiscovering hface
  constructor
  · rw [hflag, hon, h.flag]
  · rw [hrules, httl, hon, h.outward]
  · rw [hrules, httl]
    exact h.pairs
  · rw [hrules, httl]
    exact h.known

/-- One action keeps the census. -/
theorem Census.action (h : Action w w') (hw : Census w.ext) : Census w'.ext := by
  cases h with
  | hidden g hg => exact hw.congr hg
  | stop =>
    refine ⟨rfl, ?_, fun port hp => pairs_diff_sip (hw.pairs port hp) hp,
      fun r hr => hw.known r ((List.diff_subset _ _) hr)⟩
    rw [count_sipOut_diff_sip, hw.outward]
    cases w.ext.isDiscovering with
    | false => rfl
    | true => rfl
  | addMedia _ =>
    refine ⟨hw.flag, count_sipOut_append_media.trans hw.outward,
      fun port hp => pairs_append_media (hw.pairs port hp), fun r hr => ?_⟩
    rcases List.mem_append.mp hr with hr | hr
    · exact hw.known r hr
    · exact .inr ⟨_, hr⟩
  | removeMedia =>
    exact ⟨hw.flag, count_sipOut_diff_media.trans hw.outward,
      fun port hp => pairs_diff_media (hw.pairs port hp),
      fun r hr => hw.known r ((List.diff_subset _ _) hr)⟩
  | _ => exact ⟨hw.flag, hw.outward, hw.pairs, hw.known⟩

theorem Begins.census (h : Begins env option w) : Census w.ext := by
  rcases h.globals with ⟨-, ttl, hext⟩
  rw [hext]
  refine ⟨rfl, ?_, fun port hp => ?_, fun r hr => .inl hr⟩
  · simp [sipRules, sipOutRule]
  · simp [sipRules, inRule, outRule, Ne.symm hp]

theorem Reached.census (h : Reached env host option w) : Census w.ext := by
  rcases h with ⟨w₀, h₀, hrun⟩
  exact run_keeps (I := fun t => Census t.ext) (fun _ _ h => Census.action h) hrun h₀.census

/-! ## Interception -/

/-- A UDP packet of another sender. -/
structure IsForeign (g : Globals) (m : Mem) : Prop where
  udp : m 9 = 17
  ttl : ((m 8).toNat : ℤ) ≠ g.srppTtl

/-- The filter sends a packet of a chain to the queue. -/
def Intercepts (g : Globals) (chain : Chain) (m : Mem) : Prop :=
  ∃ r ∈ g.firewall, r.Queues chain m

def sourcePort (m : Mem) : ℤ := (htons (m.load16 (transportAt m))).toNat

def destinationPort (m : Mem) : ℤ := (htons (m.load16 (transportAt m + 2))).toNat

theorem Census.intercepts_input_iff {g : Globals} {m : Mem} (h : Census g) (hm : IsForeign g m)
    (hp : destinationPort m ≠ 5060) :
    Intercepts g .input m ↔ inRule (destinationPort m) g.srppTtl ∈ g.firewall := by
  constructor
  · rintro ⟨r, hr, hq⟩
    have hknown := h.known r hr
    simp only [sipRules, mediaRules, List.mem_cons, List.not_mem_nil, or_false] at hknown
    rcases hknown with (rfl | rfl) | ⟨port, rfl | rfl⟩
    · exact absurd hq.1.port hp
    · cases hq.1.chain
    · rw [show destinationPort m = port from hq.1.port]
      exact hr
    · cases hq.1.chain
  · intro hr
    exact ⟨_, hr, ⟨rfl, hm.udp, rfl⟩, hm.ttl⟩

theorem Census.intercepts_output_iff {g : Globals} {m : Mem} (h : Census g) (hm : IsForeign g m) :
    Intercepts g .output m ↔ destinationPort m = 5060 ∧ g.isDiscovering = true ∨
      outRule (sourcePort m) g.srppTtl ∈ g.firewall := by
  have hsip : sipOutRule g.srppTtl ∈ g.firewall ↔ g.isDiscovering = true := by
    rw [← List.count_pos_iff, h.outward]
    split_ifs with hon <;> simp [hon]
  constructor
  · rintro ⟨r, hr, hq⟩
    have hknown := h.known r hr
    simp only [sipRules, mediaRules, List.mem_cons, List.not_mem_nil, or_false] at hknown
    rcases hknown with (rfl | rfl) | ⟨port, rfl | rfl⟩
    · cases hq.1.chain
    · exact .inl ⟨hq.1.port, hsip.mp hr⟩
    · cases hq.1.chain
    · refine .inr ?_
      rw [show sourcePort m = port from hq.1.port]
      exact hr
  · rintro (⟨hport, hon⟩ | hr)
    · exact ⟨_, hsip.mpr hon, ⟨rfl, hm.udp, hport⟩, hm.ttl⟩
    · exact ⟨_, hr, ⟨rfl, hm.udp, rfl⟩, hm.ttl⟩

/-- In every state of every run, an outgoing packet to the port of SIP from a port that no rule
for media is about is intercepted exactly while the process discovers. -/
theorem outgoing_sip_intercepted_iff (h : Reached env host option w) {m : Mem} (hm : IsForeign w.ext m)
    (hport : destinationPort m = 5060)
    (hmedia : outRule (sourcePort m) w.ext.srppTtl ∉ w.ext.firewall) :
    Intercepts w.ext .output m ↔ w.ext.isDiscovering = true := by
  rw [h.census.intercepts_output_iff hm]
  simp [hport, hmedia]

/-- At the start, before any call. -/
theorem first_sip_intercepted : ∃ w m, Begins (Env.constant 0) 0 w ∧ IsForeign w.ext m ∧
    Intercepts w.ext .output m := by
  have hcheck : endsIn (startDiscovering (Env.constant 0) 0) (atMain (Env.constant 0)) (fun w =>
      decide (w.ext.srppTtl = 65 ∧ w.ext.isDiscovering = true ∧
        outRule 5060 65 ∉ w.ext.firewall)) = true := by decide +kernel
  rcases endsIn_run hcheck with ⟨_, w, hrun, hw⟩
  rcases of_decide_eq_true hw with ⟨httl, hon, hnone⟩
  let m := (sentSip 1 "REGISTER sip:b ").mem
  have hports : m 9 = 17 ∧ ((m 8).toNat : ℤ) = 64 ∧ destinationPort m = 5060 ∧ sourcePort m = 5060 := by
    decide +kernel
  have hm : IsForeign w.ext m := ⟨hports.1, by rw [httl, hports.2.1]; decide⟩
  have hreached : Reached (Env.constant 0) localHost 0 w := ⟨w, hrun, .refl⟩
  refine ⟨w, m, hrun, hm, ?_⟩
  rw [outgoing_sip_intercepted_iff hreached hm hports.2.2.1
    (by rw [httl, hports.2.2.2]; exact hnone)]
  exact hon

/-- In every state of every run, media is intercepted on its way in to a port exactly if it is
intercepted on its way out from there. -/
theorem media_intercepted_both_ways (h : Reached env host option w) {m m' : Mem}
    (hm : IsForeign w.ext m) (hm' : IsForeign w.ext m') (hport : destinationPort m ≠ 5060)
    (hport' : destinationPort m' ≠ 5060) (hsame : destinationPort m = sourcePort m') :
    Intercepts w.ext .input m ↔ Intercepts w.ext .output m' := by
  rw [h.census.intercepts_input_iff hm hport, h.census.intercepts_output_iff hm', ← hsame,
    ← List.count_pos_iff, ← List.count_pos_iff, h.census.pairs _ hport]
  simp [hport']

/-- In a call on port 4000 the packets of both directions are intercepted. -/
theorem call_intercepted_both_ways : ∃ w m m', Reached (Env.constant 0) localHost 0 w ∧
    Intercepts w.ext .input m ∧ Intercepts w.ext .output m' := by
  have hcheck : endsIn (session (Env.constant 0) localHost 0 callSetup 1 3) (atMain (Env.constant 0))
      (fun w => decide (w.ext.srppTtl = 65 ∧ inRule 4000 65 ∈ w.ext.firewall)) = true := by
    decide +kernel
  rcases endsIn_run hcheck with ⟨_, w, hrun, hw⟩
  rcases of_decide_eq_true hw with ⟨httl, hrule⟩
  let m := (udpPacket 1 4000 []).mem
  have hports : m 9 = 17 ∧ ((m 8).toNat : ℤ) = 64 ∧ destinationPort m = 4000 ∧ sourcePort m = 4000 := by
    decide +kernel
  have hm : IsForeign w.ext m := ⟨hports.1, by rw [httl, hports.2.1]; decide⟩
  have hother : destinationPort m ≠ 5060 := by rw [hports.2.2.1]; decide
  have hin : Intercepts w.ext .input m := by
    rw [(Reached.census (session_run hrun)).intercepts_input_iff hm hother, httl, hports.2.2.1]
    exact hrule
  refine ⟨w, m, m, session_run hrun, hin, ?_⟩
  exact (media_intercepted_both_ways (session_run hrun) hm hm hother hother
    (hports.2.2.1.trans hports.2.2.2.symm)).mp hin

end Runs

end Sqrkal.Discovery
