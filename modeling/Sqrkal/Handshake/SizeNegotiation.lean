import Sqrkal.Handshake.KeyAgreement

/-! # Agreement on the packet size

A HELLO announces the sender's packet size, which is its own or the agreed one,
and a HELLOACK only ever the agreed one. So an endpoint that has heard anything
from its peer holds the smaller of the two sizes, whatever was lost, repeated or
overtaken on the way.
-/

namespace Sqrkal.Handshake
open Foundation Message Library Relation

/-- An endpoint that started with the packet size `own`, where `agreed` is the smaller one. -/
structure Sized (own agreed : ℕ) (s : Local) : Prop where
  inBand : s.inBand = true
  max : s.max = own ∨ s.max = agreed
  globalMax : s.max ≠ own → s.globalMax = s.max
  outbox : ∀ d ∈ s.outbox,
    (∃ key psize : ℕ, key < 65536 ∧ (psize = own ∨ psize = agreed) ∧ IsHello key psize d) ∨
      IsHelloAck agreed d ∧ s.max = agreed

namespace Sized
variable {own other agreed psize key : ℕ} {s : Local} {ack : List Byte}

theorem lower_max_eq (h : Sized own agreed s) (hm : agreed = min own other)
    (hp : psize = other ∨ psize = agreed) : (s.lower psize).max = agreed := by
  rw [Local.lower_max]
  have := h.max
  omega

theorem lower_globalMax (h : Sized own agreed s) (hne : (s.lower psize).max ≠ own) :
    (s.lower psize).globalMax = (s.lower psize).max := by
  unfold Local.lower at hne ⊢
  split_ifs at hne ⊢
  · rfl
  · exact h.globalMax hne

/-- A message more in the outbox of an endpoint that holds the agreed size. -/
theorem of_agreed {s' : Local} (h : Sized own agreed s) (hb : s'.inBand = s.inBand)
    (hmax : s'.max = agreed) (hg : s'.max ≠ own → s'.globalMax = s'.max) {acked : Bool}
    (ho : s'.outbox = s.outbox ++ if acked then [ack] else [])
    (ha : acked = true → IsHelloAck s'.max ack) : Sized own agreed s' := by
  refine { inBand := hb.trans h.inBand, max := Or.inr hmax, globalMax := hg, outbox := ?_ }
  intro d hd
  rw [ho, List.mem_append] at hd
  obtain hd | hd := hd
  · rcases h.outbox d hd with hello | ⟨hack, -⟩
    · exact Or.inl hello
    · exact Or.inr ⟨hack, hmax⟩
  · cases acked with
    | false => simp at hd
    | true =>
      obtain rfl := List.mem_singleton.mp hd
      exact Or.inr ⟨hmax ▸ ha rfl, hmax⟩

theorem hello (h : Sized own agreed s) (hm : agreed = min own other)
    (hp : psize = other ∨ psize = agreed)
    (ha : acks { s.flags with hellorecvd := true } → IsHelloAck (s.hello key psize ack).max ack) :
    Sized own agreed (s.hello key psize ack) ∧ (s.hello key psize ack).max = agreed := by
  have hk : Sized own agreed { s with key := BitVec.ofInt 32 key } := { h with }
  have hmax : (s.hello key psize ack).max = agreed := by
    simpa [Local.hello] using hk.lower_max_eq hm hp
  refine ⟨h.of_agreed (by simp [Local.hello]) hmax ?_ (s.hello_outbox key psize ack) ha, hmax⟩
  simpa only [Local.hello, Local.acknowledge_max, Local.acknowledge_globalMax] using
    hk.lower_globalMax

theorem helloAck (h : Sized own agreed s) (hm : agreed = min own other)
    (ha : acks (ackFlags s.flags) → IsHelloAck (s.helloAck agreed ack).max ack) :
    Sized own agreed (s.helloAck agreed ack) ∧ (s.helloAck agreed ack).max = agreed := by
  have hmax : (s.helloAck agreed ack).max = agreed := by
    simpa [Local.helloAck, Local.settle] using h.lower_max_eq hm (Or.inr rfl)
  refine ⟨h.of_agreed (by simp [Local.helloAck, Local.settle]) hmax ?_
    (s.helloAck_outbox agreed ack) ha, hmax⟩
  simpa only [Local.helloAck, Local.settle, Local.acknowledge_max, Local.acknowledge_globalMax] using
    h.lower_globalMax

theorem initiate (h : Sized own agreed s) (hk : key < 65536) {hellos : List (List Byte)}
    (hh : s.busy = false → ∀ d ∈ hellos, IsHello key s.max d) :
    Sized own agreed (s.initiate key hellos) ∧ (s.initiate key hellos).max = s.max := by
  unfold Local.initiate
  split_ifs with hb
  · exact ⟨h, rfl⟩
  · refine ⟨{ inBand := h.inBand, max := h.max, globalMax := h.globalMax, outbox := ?_ }, rfl⟩
    intro d hd
    obtain hd | hd := List.mem_append.mp hd
    · exact h.outbox d hd
    · have hello := hh (by simpa using hb) d hd
      rcases h.max with hmax | hmax
      · exact Or.inl ⟨key, own, hk, Or.inl rfl, hmax ▸ hello⟩
      · exact Or.inl ⟨key, agreed, hk, Or.inr rfl, hmax ▸ hello⟩

end Sized

/-- Both endpoints, and what completion says about them. -/
def Negotiated (size : Side → ℕ) (agreed : ℕ) (s : Side → Local) : Prop :=
  ∀ x, Sized (size x) agreed (s x) ∧
    ((s x).flags.signalingComplete = true → ∀ y, (s y).max = agreed)

section Steps
variable {env : Side → Env} {size : Side → ℕ} {agreed : ℕ} {net : Net} {x : Side} {w : Endpoint}

/-- One endpoint moves and keeps its size, or takes the agreed one. -/
theorem Negotiated.update {s : Side → Local} {t : Local} (h : Negotiated size agreed s)
    (ht : Sized (size x) agreed t) (hmax : t.max = (s x).max ∨ t.max = agreed)
    (hc : t.flags.signalingComplete = true → (s x).flags.signalingComplete = true ∨
      t.max = agreed ∧ (s x.peer).max = agreed) :
    Negotiated size agreed (Function.update s x t) := by
  have hall : (∀ y, (s y).max = agreed) → ∀ y, (Function.update s x t y).max = agreed := by
    intro hs y
    rcases x.eq_or_eq_peer y with rfl | rfl
    · rw [Function.update_self]
      rcases hmax with hmax | hmax
      · rw [hmax, hs]
      · exact hmax
    · rw [Function.update_of_ne x.peer_ne]
      exact hs _
  intro y
  rcases x.eq_or_eq_peer y with rfl | rfl
  · rw [Function.update_self]
    refine ⟨ht, fun hct => ?_⟩
    rcases hc hct with hold | ⟨hown, hpeer⟩
    · exact hall ((h y).2 hold)
    · intro z
      rcases y.eq_or_eq_peer z with rfl | rfl
      · rwa [Function.update_self]
      · rwa [Function.update_of_ne y.peer_ne]
  · rw [Function.update_of_ne x.peer_ne]
    exact ⟨(h x.peer).1, fun hcp => hall ((h x.peer).2 hcp)⟩

theorem negotiated_initiate {status : ℤ} (hi : Negotiated size agreed (locals net))
    (h : (signaling (env x) channel).run (net x) = .ok (status, w)) :
    Negotiated size agreed (locals (Function.update net x w)) := by
  rcases initiate_effect h with ⟨hellos, hl, hs⟩
  have hk : drawnKey (env x) (net x) < 65536 :=
    lt_trans (Nat.mod_lt _ (by norm_num)) (by norm_num)
  obtain ⟨hsized, hmax⟩ := (hi x).1.initiate hk fun hb => (hs hb).2
  rw [locals_update, hl]
  refine hi.update hsized (Or.inl hmax) fun hc => Or.inl ?_
  unfold Local.initiate at hc
  split_ifs at hc <;> exact hc

theorem negotiated_deliver {d : List Byte} {junk : Mem} {r : Option SRPPMessage}
    (hm : agreed = min (size x) (size x.peer)) (hle : ∀ y, size y ≤ 99999)
    (hi : Negotiated size agreed (locals net)) (hd : d ∈ (net x.peer).ext)
    (h : (processReceivedData (env x) channel (junk.around d) d.length).run (net x) = .ok (r, w)) :
    Negotiated size agreed (locals (Function.update net x w)) := by
  have hag : agreed ≤ 99999 := hm ▸ (min_le_left _ _).trans (hle x)
  rw [locals_update]
  rcases (hi x.peer).1.outbox d hd with ⟨key, psize, hk, hp, hello⟩ | ⟨hack, hpeer⟩
  · have hps : psize ≤ 99999 := by
      rcases hp with rfl | rfl
      · exact hle x.peer
      · exact hag
    rcases hello_effect hello hk (hi x).1.inBand h with ⟨ack, hl, ha⟩
    rw [hello_size hk hps] at hl
    rw [hl] at ha ⊢
    rcases (hi x).1.hello hm hp ha with ⟨hsized, hmax⟩
    refine hi.update hsized (Or.inr hmax) fun hc => Or.inl ?_
    simpa [Local.hello] using hc
  · rcases helloAck_effect hack (hi x).1.inBand h with ⟨ack, hl, ha⟩
    rw [ack_size hag] at hl
    rw [hl] at ha ⊢
    rcases (hi x).1.helloAck hm ha with ⟨hsized, hmax⟩
    exact hi.update hsized (Or.inr hmax) fun _ => Or.inr ⟨hmax, hpeer⟩

theorem negotiated_run {net₀ : Net} (h₀ : Initial net₀)
    (hsize : ∀ x, (net₀ x).lib.session.maxpacketsize = size x) (hle : ∀ x, size x ≤ 99999)
    (hrun : ReflTransGen (Step env) net₀ net) :
    Negotiated size (min (size .left) (size .right)) (locals net) := by
  induction hrun with
  | refl =>
    intro x
    rcases h₀ x with ⟨hf, hb, ho⟩
    refine ⟨{ inBand := hb, max := Or.inl (hsize x), globalMax := fun h => absurd (hsize x) h
              outbox := ?_ }, ?_⟩
    · rw [show (locals net₀ x).outbox = [] from ho]
      simp
    · rw [show (locals net₀ x).flags = {} from hf]
      simp
  | tail _ hstep ih =>
    cases hstep with
    | initiate x h => exact negotiated_initiate ih h
    | deliver x junk hd h =>
      refine negotiated_deliver ?_ hle ih hd h
      cases x with
      | left => rfl
      | right => exact min_comm _ _

end Steps

/-- Completion at one endpoint means that both hold the smaller packet size, and a
lowered session size is the global one as well. -/
theorem sizes_agree {env : Side → Env} {size : Side → ℕ} {net₀ net : Net} (h₀ : Initial net₀)
    (hsize : ∀ x, (net₀ x).lib.session.maxpacketsize = size x) (hle : ∀ x, size x ≤ 99999)
    (hrun : ReflTransGen (NestedStep env fun _ _ => True) net₀ net) :
    (∀ x, (net x).lib.flags.signalingComplete = true →
      ∀ y, (net y).lib.session.maxpacketsize = (min (size .left) (size .right) : ℕ)) ∧
    ∀ x, (net x).lib.session.maxpacketsize < size x →
      (net x).lib.maxpacketsize = (net x).lib.session.maxpacketsize := by
  have hsteps : ReflTransGen (Step env) net₀ net :=
    nested_run (fun _ h => .initiate _ h) (fun hd h => .deliver _ _ hd h) hrun
  have hn := negotiated_run h₀ hsize hle hsteps
  exact ⟨fun x => (hn x).2, fun x hlt => (hn x).1.globalMax hlt.ne⟩

/-- The packet sizes 1464 and 1200. -/
def twoSizes : Side → ℕ
  | .left => 1464
  | .right => 1200

theorem sizes_agree_leader : ∃ net,
    ReflTransGen (Step twoKeys) (netOf (freshEndpoint 1464) (freshEndpoint 1200)) net ∧
    (∀ x, (net x).lib.flags.signalingComplete = true) ∧
    (∀ x, (net x).lib.session.maxpacketsize = 1200) ∧ (net .left).lib.maxpacketsize = 1200 := by
  obtain ⟨net, hrun, hc⟩ := @leader_run 1464 1200 (by norm_num) (by norm_num)
  have hsteps := ReflTransGen.mono (fun _ _ h => OrderedStep.step h) _ _ hrun
  obtain ⟨hsame, hglobal⟩ := @sizes_agree twoKeys twoSizes _ _ (netOf_fresh_initial 1464 1200)
    (by intro x; cases x <;> rfl) (by intro x; cases x <;> decide)
    (ReflTransGen.mono (fun _ _ h => Step.nested h) _ _ hsteps)
  have hleft : (net .left).lib.session.maxpacketsize = 1200 := hsame .left (hc .left) .left
  refine ⟨net, hsteps, hc, hsame .left (hc .left), ?_⟩
  rw [hglobal .left (by rw [hleft]; decide), hleft]

end Sqrkal.Handshake
