import Sqrkal.Discovery.Actions
import Sqrkal.Discovery.Consistency

/-! # No datagram is queued again

A rule sends a packet to the queue unless it has one time to live. That value is drawn once,
every rule is made with it, and every datagram of the process carries it, so nothing the
process sends comes back to it through the filter.
-/

namespace Sqrkal.Discovery
open Foundation Mem Message Library Relation

/-! ## What a rule matches -/

def PortMatch.Fits : PortMatch → Mem → Prop
  | .destination port, m => ((htons (m.load16 (transportAt m + 2))).toNat : ℤ) = port
  | .source port, m => ((htons (m.load16 (transportAt m))).toNat : ℤ) = port

instance (p : PortMatch) (m : Mem) : Decidable (p.Fits m) := by
  cases p <;> exact inferInstanceAs (Decidable (_ = _))

/-- The chain, protocol and port of a rule match a packet. -/
structure Rule.Fits (r : Rule) (chain : Chain) (m : Mem) : Prop where
  chain : r.chain = chain
  protocol : m 9 = if r.isUdp then 17 else 6
  port : r.ports.Fits m

instance (r : Rule) (chain : Chain) (m : Mem) : Decidable (r.Fits chain m) :=
  decidable_of_iff (r.chain = chain ∧ (m 9 = if r.isUdp then 17 else 6) ∧ r.ports.Fits m)
    ⟨fun h => ⟨h.1, h.2.1, h.2.2⟩, fun h => ⟨h.chain, h.protocol, h.port⟩⟩

/-- A rule sends a packet to the queue: `-m ttl ! --ttl-eq`. -/
def Rule.Queues (r : Rule) (chain : Chain) (m : Mem) : Prop :=
  r.Fits chain m ∧ ((m 8).toNat : ℤ) ≠ r.ttl

/-- A datagram has been given to the raw socket. -/
def Sent (log : List Event) (d : Datagram) : Prop :=
  .rtpMessage d ∈ log ∨ ∃ packet, .rawMessage packet d ∈ log

/-! ## The mark in the datagrams -/

section Mark
variable {ttl : ℤ} {m : Mem}

theorem formChecksums_isMarked (h : IsMarked ttl m) : IsMarked ttl (formChecksums m) := by
  have hag : AgreesOn (formChecksums m) m 8 9 := by
    refine formChecksums_agreesOn_of (.inl (by decide)) ?_
    have ht : transportAt m = 4 * ihl m := rfl
    omega
  exact (hag 8 le_rfl (by decide)).trans h

theorem write_isMarked {off : ℤ} {bs : List Byte} (h : IsMarked ttl m)
    (hoff : 8 < off ∨ off + bs.length ≤ 8) : IsMarked ttl (m.write off bs) :=
  (write_apply_outside hoff).trans h

theorem store16_isMarked {a : ℤ} (x : BitVec 16) (h : IsMarked ttl m) (ha : 8 < a ∨ a + 2 ≤ 8) :
    IsMarked ttl (m.store16 a x) :=
  write_isMarked h (by simpa using ha)

theorem firstFragment_isMarked (fragId : ℤ) (h : IsMarked ttl m) :
    IsMarked ttl (firstFragment fragId m) :=
  formChecksums_isMarked (store16_isMarked _ (store16_isMarked _ (store16_isMarked _ h (by omega))
    (by omega)) (by omega))

/-- The second fragment has the time to live of the header it copies. -/
theorem secondFragment_isMarked (junk : Mem) (bytesLeft : ℕ) (h : IsMarked ttl m) :
    IsMarked ttl (secondFragment junk m bytesLeft) := by
  have hag : AgreesOn (secondHeader junk m bytesLeft) m 8 9 := by
    apply secondHeader_agreesOn <;> omega
  exact formChecksums_isMarked ((hag 8 le_rfl (by decide)).trans h)

theorem rewriteHeader_isMarked (g : Globals) (d : List Byte) (h : IsMarked ttl m) :
    IsMarked ttl (rewriteHeader g d m) := by
  have hheader : IsMarked ttl (m.write 28 (g.rtpHeader.read 28 12)) := write_isMarked h (.inl (by decide))
  unfold rewriteHeader
  dsimp only
  split_ifs
  · exact write_isMarked hheader (.inl (by decide))
  · exact hheader
  · exact h

theorem datagramBytes_isMarked (g : Globals) (junk : Mem) (d : List Byte) :
    IsMarked g.srppTtl (datagram (datagramBytes g junk d)) := by
  have hwrapped : IsMarked g.srppTtl (wrapMessage g junk d) :=
    write_isMarked (setTtl_isMarked _ _) (.inl (by decide))
  have hag := datagram_agreesOn (formChecksums (rewriteHeader g d (wrapMessage g junk d)))
    (d.length + 28)
  exact (hag 8 (by decide) (by push_cast; omega)).trans
    (formChecksums_isMarked (rewriteHeader_isMarked g d hwrapped))

/-- What is sent of a marked buffer is marked. -/
theorem rawEvents_isMarked {packet id : ℕ} {a : SockAddr} {n : ℤ} {d : Datagram} (h : IsMarked ttl m)
    (hn : 9 ≤ n) (hd : .rawMessage id d ∈ rawEvents packet m a n) :
    IsMarked ttl (datagram d.bytes) := by
  unfold rawEvents at hd
  split_ifs at hd
  · cases hd
  · rw [List.mem_singleton] at hd
    cases hd
    exact (datagram_agreesOn m n.toNat 8 (by decide) (by omega)).trans h

end Mark

/-! ## The invariant -/

/-- Everything sent so far has the time to live that every rule exempts. -/
structure Marked (ttl : ℤ) (w : Process) : Prop where
  drawn : w.ext.srppTtl = ttl
  rules : ∀ r ∈ w.ext.firewall, r.ttl = ttl
  sent : ∀ d, Sent w.log d → IsMarked ttl (datagram d.bytes)

section Steps
variable {ttl : ℤ} {w w' : Process}

theorem ttl_of_mem_sipRules {r : Rule} (h : r ∈ sipRules ttl) : r.ttl = ttl := by
  simp only [sipRules, List.mem_cons, List.not_mem_nil, or_false] at h
  rcases h with rfl | rfl <;> rfl

theorem ttl_of_mem_mediaRules {port : ℤ} {r : Rule} (h : r ∈ mediaRules port ttl) : r.ttl = ttl := by
  simp only [mediaRules, List.mem_cons, List.not_mem_nil, or_false] at h
  rcases h with rfl | rfl <;> rfl

/-- An event without a datagram sends nothing. -/
theorem sent_note {e : Event} {log : List Event} {d : Datagram} (he : IsNote e)
    (h : Sent (e :: log) d) : Sent log d := by
  rcases h with h | ⟨packet, h⟩
  · rcases List.mem_cons.mp h with rfl | h
    · exact he.elim
    · exact .inl h
  · rcases List.mem_cons.mp h with rfl | h
    · exact he.elim
    · exact .inr ⟨packet, h⟩

/-- What the raw socket is given for one packet. -/
theorem sent_rawEvents {packet : ℕ} {m : Mem} {a : SockAddr} {n : ℤ} {log : List Event} {d : Datagram}
    (h : Sent (rawEvents packet m a n ++ log) d) :
    (∃ id, .rawMessage id d ∈ rawEvents packet m a n) ∨ Sent log d := by
  rcases h with h | ⟨id, h⟩
  · rcases List.mem_append.mp h with h | h
    · unfold rawEvents at h
      split_ifs at h <;> simp at h
    · exact .inr (.inl h)
  · rcases List.mem_append.mp h with h | h
    · exact .inl ⟨id, h⟩
    · exact .inr (.inr ⟨id, h⟩)

theorem sent_handedOver {packet : ℕ} {log : List Event} {d : Datagram}
    (h : Sent (.handedOver packet :: log) d) : Sent log d := by
  rcases h with h | ⟨id, h⟩
  · exact .inl (by simpa using h)
  · exact .inr ⟨id, by simpa using h⟩

theorem sent_fragmented {packet : ℕ} {log : List Event} {d : Datagram}
    (h : Sent (.fragmented packet :: log) d) : Sent log d := by
  rcases h with h | ⟨id, h⟩
  · exact .inl (by simpa using h)
  · exact .inr ⟨id, by simpa using h⟩

/-- One action keeps the mark. -/
theorem Marked.action (h : Action w w') (hw : Marked ttl w) : Marked ttl w' := by
  cases h with
  | lib l _ => exact ⟨hw.drawn, hw.rules, hw.sent⟩
  | complete => exact ⟨hw.drawn, hw.rules, fun d hd => hw.sent d (sent_note (e := .completed) trivial hd)⟩
  | hidden g hg =>
    have httl := congrArg Face.srppTtl hg
    have hrules : g.firewall = w.ext.firewall := congrArg Face.firewall hg
    exact ⟨httl.trans hw.drawn, fun r hr => hw.rules r (hrules ▸ hr), hw.sent⟩
  | note e he => exact ⟨hw.drawn, hw.rules, fun d hd => hw.sent d (sent_note he hd)⟩
  | port n => exact ⟨hw.drawn, hw.rules, hw.sent⟩
  | stop => exact ⟨hw.drawn, fun r hr => hw.rules r ((List.diff_subset _ _) hr), hw.sent⟩
  | addMedia _ =>
    refine ⟨hw.drawn, fun r hr => ?_, hw.sent⟩
    rcases List.mem_append.mp hr with hr | hr
    · exact hw.rules r hr
    · exact (ttl_of_mem_mediaRules hr).trans hw.drawn
  | removeMedia => exact ⟨hw.drawn, fun r hr => hw.rules r ((List.diff_subset _ _) hr), hw.sent⟩
  | sipHeader buff _ => exact ⟨hw.drawn, hw.rules, hw.sent⟩
  | mediaHeader buff _ => exact ⟨hw.drawn, hw.rules, hw.sent⟩
  | source ssrc _ => exact ⟨hw.drawn, hw.rules, hw.sent⟩
  | whole packet buff n hm hn =>
    rw [hw.drawn] at hm
    refine ⟨hw.drawn, hw.rules, fun d hd => ?_⟩
    rcases sent_rawEvents hd with ⟨id, hd⟩ | hd
    · exact rawEvents_isMarked (formChecksums_isMarked hm) (by omega) hd
    · exact hw.sent d (sent_handedOver hd)
  | split packet buff junk bytesLeft hm =>
    rw [hw.drawn] at hm
    have hfirst := firstFragment_isMarked w.ext.fragId hm
    refine ⟨hw.drawn, hw.rules, fun d hd => ?_⟩
    rw [sentSplit, List.append_assoc] at hd
    rcases sent_rawEvents hd with ⟨id, hd⟩ | hd
    · exact rawEvents_isMarked (secondFragment_isMarked junk bytesLeft hfirst) (by omega) hd
    rcases sent_rawEvents hd with ⟨id, hd⟩ | hd
    · exact rawEvents_isMarked hfirst (by decide) hd
    · exact hw.sent d (sent_handedOver (sent_fragmented hd))
  | message a junk d hd _ =>
    refine ⟨hw.drawn, hw.rules, fun d' hd' => ?_⟩
    rcases hd' with hd' | ⟨id, hd'⟩
    · rcases List.mem_cons.mp hd' with he | hd'
      · cases he
        rw [← hw.drawn]
        exact datagramBytes_isMarked w.ext junk d
      · exact hw.sent d' (.inl hd')
    · exact hw.sent d' (.inr ⟨id, by simpa [sentMessage] using hd'⟩)

end Steps

/-! ## Runs -/

section Runs
variable {env : Env} {host : Host} {option : ℤ} {w : Process}

/-- The time to live is drawn between 65 and 93. -/
theorem Begins.ttl (h : Begins env option w) : 65 ≤ w.ext.srppTtl ∧ w.ext.srppTtl ≤ 93 := by
  rcases run_bind_eq_ok h with ⟨_, w₁, h₁, h⟩
  rcases onLib_eq_ok h₁ with ⟨l₁, -, rfl⟩
  rcases run_bind_eq_ok h with ⟨a, w₂, h₂, h⟩
  cases h₂
  rcases run_bind_eq_ok h with ⟨b, w₃, h₃, h⟩
  cases h₃
  rw [run_bind_ok (setGlobals_run _ _)] at h
  rcases run_bind_eq_ok h with ⟨_, w₄, h₄, h⟩
  cases h₄
  rcases run_bind_eq_ok h with ⟨_, w₅, h₅, h⟩
  rcases onLib_eq_ok h₅ with ⟨l₅, -, rfl⟩
  cases h
  have hdrawn : (65 : ℤ) ≤ 65 + (env.rand l₁.tick % 25 : ℕ) + (env.rand (l₁.tick + 1) % 5 : ℕ) ∧
      65 + (env.rand l₁.tick % 25 : ℕ) + (env.rand (l₁.tick + 1) % 5 : ℕ) ≤ (93 : ℤ) := by omega
  exact hdrawn

theorem Begins.marked (h : Begins env option w) : Marked w.ext.srppTtl w := by
  rcases h.globals with ⟨hlog, ttl, hext⟩
  refine ⟨rfl, fun r hr => ?_, fun d hd => ?_⟩
  · rw [hext] at hr ⊢
    exact ttl_of_mem_sipRules hr
  · rw [hlog] at hd
    rcases hd with hd | ⟨_, hd⟩ <;> cases hd

theorem Reached.marked (h : Reached env host option w) :
    Marked w.ext.srppTtl w ∧ 65 ≤ w.ext.srppTtl ∧ w.ext.srppTtl ≤ 93 := by
  rcases h with ⟨w₀, h₀, hrun⟩
  have hw : Marked w₀.ext.srppTtl w := run_keeps (fun _ _ h => Marked.action h) hrun h₀.marked
  rw [hw.drawn]
  exact ⟨hw, h₀.ttl⟩

/-- In every state of every run, no rule of the filter sends a datagram of the process to the
queue, on whatever chain it passes. -/
theorem sent_never_queued (h : Reached env host option w) {d : Datagram} (hd : Sent w.log d) {r : Rule}
    (hr : r ∈ w.ext.firewall) (chain : Chain) : ¬r.Queues chain (datagram d.bytes) := by
  rcases h.marked with ⟨hm, hlo, hhi⟩
  intro hq
  refine hq.2 ?_
  rw [hm.sent d hd, hm.rules r hr, BitVec.toNat_ofInt]
  omega

/-- A REGISTER is sent on to the port of SIP: chain, protocol and port of a rule match it. -/
theorem register_never_queued : ∃ w d r, Reached (Env.constant 0) localHost 0 w ∧ Sent w.log d ∧
    r ∈ w.ext.firewall ∧ r.Fits .output (datagram d.bytes) ∧ ¬r.Queues .output (datagram d.bytes) := by
  have hcheck : endsIn (session (Env.constant 0) localHost 0 [some (sentSip 1 "REGISTER sip:b ")] 1 1)
      (atMain (Env.constant 0)) (fun w => (lastWhole w.log).any fun s =>
        w.ext.firewall.any fun r => decide (r.Fits .output (datagram s.2.bytes))) = true := by
    decide +kernel
  rcases endsIn_run hcheck with ⟨_, w, hrun, hw⟩
  rw [Option.any_eq_true] at hw
  rcases hw with ⟨⟨id, d⟩, hlast, hany⟩
  rcases List.any_eq_true.mp hany with ⟨r, hr, hfits⟩
  rcases @sendsWhole_of_last { w with log := [] } w id d rfl hlast with ⟨later, earlier, hlog⟩
  have hsent : Sent w.log d := .inr ⟨id, by simp [hlog]⟩
  exact ⟨w, d, r, session_run hrun, hsent, hr, of_decide_eq_true hfits,
    sent_never_queued (session_run hrun) hsent hr .output⟩

end Runs

end Sqrkal.Discovery
