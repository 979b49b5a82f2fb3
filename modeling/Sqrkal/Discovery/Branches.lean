import Sqrkal.Discovery.Checked

/-! # One branch, one datagram

The flags `is_sip` and `is_rtp` are globals. A SIP packet that waits for the end of a
session reads further packets, and a media packet among these sets `is_rtp` while the SIP
packet is still between its two tests. As long as none does, every packet takes the branch
of its own ports, and is forwarded at most once.
-/

namespace Sqrkal.Discovery
open Foundation Message Library Relation

/-! ## The process in which every packet takes its own branch -/

section Own
variable (env : Env) (host : Host) (F : Functors Globals)

/-- What `process_packet` should do: the ports of the packet decide on its branch, once. -/
def processOwn (p : Packet) : Op (Option ℤ) := do
  let w ← get
  if IsSip w.ext.sipPorts p then
    set (enterSip w p)
    let _ ← handleSip env host F p.id p.mem p.bytes.length (isInward host p)
    return none
  else if IsMedia w.ext p then
    set (enterRtp w p)
    if IsInward host p then
      inboundRtp env F p.id p.mem p.bytes.length (transportAt p.mem)
        (htons (p.mem.load16 (transportAt p.mem)))
      return none
    else outboundRtp env F p.id p.mem p.bytes.length (transportAt p.mem)
  else dropPacket p

def ownFunctors : ℕ → Functors Globals
  | 0 => functors env host 0
  | n + 1 =>
    { send := sendRtpMessage env
      receive := receiveWith env (ownFunctors n) (processOwn env host (ownFunctors n)) }

def ownRound (n : ℕ) : Op Unit := roundWith (processOwn env host (ownFunctors env host n))

/-- A step in which every packet takes the branch of its own ports and no other. -/
inductive OwnStep (w : Process) : Process → Prop
  | arrive (p : Option Packet) :
      OwnStep w { w with ext := { w.ext with queue := w.ext.queue ++ [p] } }
  | round (n : ℕ) {w' : Process} (hd : w.ext.isDiscovering = true)
      (h : (ownRound env host n).run w = .ok ((), w')) : OwnStep w w'
  | again (n : ℕ) (q : Packet) {w' : Process} (hd : w.ext.isDiscovering = true) (hq : IsHeld w.ext q)
      (h : (ownRound env host n).run (refilled w q) = .ok ((), w')) : OwnStep w w'
  | tick (n : ℕ) {w' : Process} (h : (timerFired env (ownFunctors env host n)).run w = .ok ((), w')) :
      OwnStep w w'

end Own

/-! ## Counting -/

/-- How often a packet has been given to the sockets. -/
def handovers (id : ℕ) (log : List Event) : ℕ := log.count (.handedOver id)

def fragmentations (id : ℕ) (log : List Event) : ℕ := log.count (.fragmented id)

/-- The datagrams that have been sent for a packet. -/
def datagrams (id : ℕ) (log : List Event) : ℕ :=
  log.countP fun
    | .rawMessage packet _ => packet = id
    | _ => false

def queued (id : ℕ) (queue : List (Option Packet)) : ℕ :=
  queue.countP fun p => p.any fun q => q.id = id

/-- A packet given to the sockets has been sent as one datagram, or as two fragments. -/
structure Settled (id : ℕ) (log : List Event) : Prop where
  fragmentations : fragmentations id log ≤ handovers id log
  datagrams : datagrams id log ≤ handovers id log + Discovery.fragmentations id log

/-- At most one datagram has been sent for a packet, or one pair of fragments. -/
structure ForwardedOnce (id : ℕ) (log : List Event) : Prop where
  once : handovers id log ≤ 1
  settled : Settled id log

/-- How often a packet has been or may still be forwarded. -/
def load (id : ℕ) (w : Process) : ℕ := handovers id w.log + queued id w.ext.queue

/-- The packets carry different numbers, no read of the main loop fails while its buffer holds a
packet that has been forwarded, and while a SIP packet is being handled no media packet is
processed. -/
def unmixed : Condition where
  arrival w p := load p.id w = 0
  reading handled w :=
    match nextPacket w.ext with
    | none => true
    | some p => !isProcessed handled p || !decide (IsMedia w.ext p) ||
        !handled.any fun q => IsSip w.ext.sipPorts q

section Counting
variable (id packet : ℕ) (a b log : List Event)

@[simp] theorem handovers_append : handovers id (a ++ b) = handovers id a + handovers id b :=
  List.count_append

@[simp] theorem fragmentations_append :
    fragmentations id (a ++ b) = fragmentations id a + fragmentations id b :=
  List.count_append

@[simp] theorem datagrams_append : datagrams id (a ++ b) = datagrams id a + datagrams id b :=
  List.countP_append

/-- How often the packet is this one. -/
def single : ℕ := if id = packet then 1 else 0

@[simp] theorem handovers_handedOver :
    handovers id (.handedOver packet :: log) = handovers id log + single id packet := by
  by_cases h : id = packet
  · subst h
    simp [handovers, single]
  · simp [handovers, single, h, Ne.symm h]

@[simp] theorem handovers_fragmented :
    handovers id (.fragmented packet :: log) = handovers id log := by
  simp [handovers]

@[simp] theorem fragmentations_handedOver :
    fragmentations id (.handedOver packet :: log) = fragmentations id log := by
  simp [fragmentations]

@[simp] theorem fragmentations_fragmented :
    fragmentations id (.fragmented packet :: log) = fragmentations id log + single id packet := by
  by_cases h : id = packet
  · subst h
    simp [fragmentations, single]
  · simp [fragmentations, single, h, Ne.symm h]

@[simp] theorem datagrams_handedOver : datagrams id (.handedOver packet :: log) = datagrams id log := by
  simp [datagrams]

@[simp] theorem datagrams_fragmented : datagrams id (.fragmented packet :: log) = datagrams id log := by
  simp [datagrams]

variable (buff : Mem) (address : SockAddr) (length : ℤ)

@[simp] theorem handovers_rawEvents : handovers id (rawEvents packet buff address length) = 0 := by
  unfold rawEvents
  split_ifs <;> simp [handovers]

@[simp] theorem fragmentations_rawEvents :
    fragmentations id (rawEvents packet buff address length) = 0 := by
  unfold rawEvents
  split_ifs <;> simp [fragmentations]

theorem datagrams_rawEvents_le :
    datagrams id (rawEvents packet buff address length) ≤ single id packet := by
  unfold rawEvents
  split_ifs
  · exact Nat.zero_le _
  · by_cases h : id = packet
    · subst h
      simp [datagrams, single]
    · simp [datagrams, single, h, Ne.symm h]

/-- Other events do not count. -/
theorem counts_of_not_aboutPacket {e : Event} (he : ¬IsAboutPacket e) :
    handovers id (e :: log) = handovers id log ∧
      fragmentations id (e :: log) = fragmentations id log ∧
      datagrams id (e :: log) = datagrams id log := by
  cases e with
  | handedOver _ => exact absurd trivial he
  | fragmented _ => exact absurd trivial he
  | rawMessage _ _ => exact absurd trivial he
  | _ => simp [handovers, fragmentations, datagrams]

end Counting

/-! ## The accounts of the packets -/

/-- Between two states the packets may be forwarded no more often than before, up to some
extra, and with `strict` the flag `is_rtp` is not set. -/
structure Accounts (strict : Prop) (extra : ℕ → ℕ) (w w' : Process) : Prop where
  ports : w'.ext.sipPorts = w.ext.sipPorts
  kind : strict → w.ext.isRtp = false → w'.ext.isRtp = false
  load : ∀ id, load id w' ≤ load id w + extra id
  settled : ∀ id, Settled id w.log → Settled id w'.log

/-- The same, for states in which the SIP ports are given. -/
def Flows (ports : List ℤ) (strict : Prop) (extra : ℕ → ℕ) (w w' : Process) : Prop :=
  w.ext.sipPorts = ports → Accounts strict extra w w'

section Relation
variable {ports : List ℤ} {strict : Prop} {a b : ℕ → ℕ} {w u v : Process}

theorem Accounts.trans (h : Accounts strict a w u) (h' : Accounts strict b u v) :
    Accounts strict (a + b) w v where
  ports := h'.ports.trans h.ports
  kind hs hw := h'.kind hs (h.kind hs hw)
  load id := by
    have h₁ := h.load id
    have h₂ := h'.load id
    simp only [Pi.add_apply]
    omega
  settled id hw := h'.settled id (h.settled id hw)

theorem Flows.trans (h : Flows ports strict a w u) (h' : Flows ports strict b u v) :
    Flows ports strict (a + b) w v :=
  fun hw => (h hw).trans (h' ((h hw).ports.trans hw))

/-- Steps that allow nothing extra add up to nothing. -/
theorem flows_of_steps (h : ReflTransGen (Flows ports strict 0) w v) : Flows ports strict 0 w v := by
  induction h with
  | refl => exact fun _ => ⟨rfl, fun _ => id, fun _ => le_rfl, fun _ => id⟩
  | tail _ hstep ih =>
    have htrans := ih.trans hstep
    rwa [add_zero] at htrans

theorem Flows.mono {strict' : Prop} (hs : strict' → strict) (h : Flows ports strict a w v) :
    Flows ports strict' a w v := fun hw =>
  ⟨(h hw).ports, fun hs' => (h hw).kind (hs hs'), (h hw).load, (h hw).settled⟩

theorem Flows.holds_mono {strict' : Prop} (hs : strict' → strict) {F : Functors Globals}
    (hF : Holds (Flows ports strict 0) F) : Holds (Flows ports strict' 0) F :=
  ⟨fun d => (hF.send d).mono fun _ _ h => h.mono hs, hF.receive.mono fun _ _ h => h.mono hs⟩

theorem flows_permits : Permits (Flows ports strict 0) fun g => (g.sipPorts, g.isRtp, g.queue) := by
  intro w g hpart _
  simp only [Prod.mk.injEq] at hpart
  rcases hpart with ⟨hports, hrtp, hqueue⟩
  refine ⟨hports, fun _ hw => hrtp.trans hw, fun id => ?_, fun _ => id⟩
  unfold load
  rw [hqueue]
  exact le_rfl

theorem flows_filter : Permits (Flows ports strict 0) Globals.beyondFilter :=
  flows_permits.weaken (fun g => (g.sipPorts, g.isRtp, g.queue)) fun _ => rfl

theorem flows_address : Permits (Flows ports strict 0) Globals.beyondAddress :=
  flows_permits.weaken (fun g => (g.sipPorts, g.isRtp, g.queue)) fun _ => rfl

theorem flows_event {e : Event} (he : ¬IsAboutPacket e) (l : Lib) :
    Flows ports strict 0 w ⟨l, w.ext, e :: w.log⟩ := by
  refine fun _ => ⟨rfl, fun _ => id, fun id => ?_, fun id hs => ?_⟩
  · unfold load
    rw [(counts_of_not_aboutPacket id w.log he).1]
    exact le_rfl
  · rcases counts_of_not_aboutPacket id w.log he with ⟨hh, hf, hd⟩
    exact ⟨by rw [hh, hf]; exact hs.fragmentations, by rw [hh, hf, hd]; exact hs.datagrams⟩

theorem flows_ignores : Ignores (Flows ports strict 0) where
  lib _ _ _ := fun _ => ⟨rfl, fun _ => id, fun _ => le_rfl, fun _ => id⟩
  complete _ := flows_event id _
  globals := flows_permits.weaken (fun c => (c.sipPorts, c.isRtp, c.queue)) fun _ => rfl
  apply _ := fun _ => ⟨rfl, fun _ => id, fun _ => le_rfl, fun _ => id⟩
  event w _ he := flows_event he w.lib

end Relation

/-! ## Forwarding -/

section Forwarding
variable {env : Env} {ports : List ℤ} {strict : Prop} {packet : ℕ} {buff buff' : Mem} {w w' : Process}

/-- The log behind a forwarded packet. -/
theorem forward_counts {bytesRead : ℤ}
    (h : (forward env packet buff bytesRead).run w = .ok (buff', w')) (id : ℕ) :
    handovers id w'.log = handovers id w.log + single id packet ∧
      (Settled id w.log → Settled id w'.log) := by
  rcases (forward_cases h).2 with hlog | ⟨b, n, hlog⟩
  · rw [hlog]
    refine ⟨by simp, fun hs => ⟨?_, ?_⟩⟩
    · have hf := hs.fragmentations
      simp only [fragmentations_append, fragmentations_rawEvents, fragmentations_handedOver,
        handovers_append, handovers_rawEvents, handovers_handedOver]
      omega
    · have hd := hs.datagrams
      have hraw := datagrams_rawEvents_le id packet (formChecksums buff) w.ext.outAddr bytesRead
      simp only [fragmentations_append, fragmentations_rawEvents, fragmentations_handedOver,
        handovers_append, handovers_rawEvents, handovers_handedOver, datagrams_append,
        datagrams_handedOver]
      omega
  · rw [hlog]
    refine ⟨by simp, fun hs => ⟨?_, ?_⟩⟩
    · have hf := hs.fragmentations
      simp only [fragmentations_append, fragmentations_rawEvents, fragmentations_handedOver,
        fragmentations_fragmented, handovers_append, handovers_rawEvents, handovers_handedOver,
        handovers_fragmented]
      omega
    · have hd := hs.datagrams
      have hfirst := datagrams_rawEvents_le id packet (firstFragment w.ext.fragId buff) w.ext.outAddr
        ipMtu
      have hsecond := datagrams_rawEvents_le id packet b w.ext.outAddr n
      simp only [fragmentations_append, fragmentations_rawEvents, fragmentations_handedOver,
        fragmentations_fragmented, handovers_append, handovers_rawEvents, handovers_handedOver,
        handovers_fragmented, datagrams_append, datagrams_handedOver, datagrams_fragmented]
      omega

theorem forward_flows {bytesRead : ℤ}
    (h : (forward env packet buff bytesRead).run w = .ok (buff', w')) :
    Flows ports strict (single · packet) w w' := by
  rcases (forward_cases h).1 with ⟨t, n, -, hext⟩
  refine fun _ => ⟨by rw [hext], fun _ hw => by rw [hext]; exact hw, fun id => ?_, fun id =>
    (forward_counts h id).2⟩
  unfold load
  rw [(forward_counts h id).1, hext]
  dsimp only
  omega

/-- A program that forwards the packet at most once. -/
def Spends {α : Type} (ports : List ℤ) (strict : Prop) (packet : ℕ) (w : Process) (x : Op α) : Prop :=
  ∀ a w', x.run w = .ok (a, w') → Flows ports strict (single · packet) w w'

section Rules
variable {α β : Type} {x : Op α} {f : α → Op β}

theorem Spends.bind_left (hx : Within (Flows ports strict 0) x)
    (hf : ∀ a u, x.run w = .ok (a, u) → Spends ports strict packet u (f a)) :
    Spends ports strict packet w (x >>= f) := by
  intro b v h
  rcases run_bind_eq_ok h with ⟨a, u, ha, hb⟩
  have htrans := (flows_of_steps (hx w a u ha)).trans (hf a u ha b v hb)
  rwa [zero_add] at htrans

theorem Spends.bind_right (hx : Spends ports strict packet w x)
    (hf : ∀ a, Within (Flows ports strict 0) (f a)) : Spends ports strict packet w (x >>= f) := by
  intro b v h
  rcases run_bind_eq_ok h with ⟨a, u, ha, hb⟩
  have htrans := (hx a u ha).trans (flows_of_steps (hf a u b v hb))
  rwa [add_zero] at htrans

theorem Spends.of_within (hx : WithinAt (Flows ports strict 0) w x) :
    Spends ports strict packet w x := by
  intro a v h hw
  have hv := flows_of_steps (hx a v h) hw
  exact ⟨hv.ports, hv.kind, fun id => (hv.load id).trans (Nat.le_add_right _ _), hv.settled⟩

end Rules

theorem forwardSip_spends (bytesRead : ℤ) (inward : Bool) :
    Spends ports strict packet w (forwardSip env packet buff bytesRead inward) := by
  have haddress : ∀ {f : Globals → Globals}, (∀ g, (f g).beyondAddress = g.beyondAddress) →
      Within (Flows ports strict 0) (if inward = true then setGlobals f else pure ()) :=
    fun hf => .ite (flows_address.within hf) (.pure _)
  refine .bind_left (haddress fun _ => rfl) fun _ u _ => ?_
  refine .bind_left .get fun v u' _ => .bind_right (fun _ _ h => forward_flows h) fun _ => ?_
  exact .bind (haddress fun _ => rfl) fun _ => .pure _

theorem deliverInbound_spends (bytesRead offset : ℤ) :
    Spends ports strict packet w (deliverInbound env packet buff bytesRead offset) :=
  .bind_left .get fun _ _ _ => .bind_left (flows_address.within fun _ => rfl) fun _ _ _ =>
    .bind_right (fun _ _ h => forward_flows h) fun _ => .pure _

theorem deliverOutbound_spends (bytesRead offset : ℤ) :
    Spends ports strict packet w (deliverOutbound env packet buff bytesRead offset) := by
  have hR : Admits (Flows ports strict 0) := flows_ignores.admits
  refine .bind_left (hR.setGlobals fun _ => rfl) fun _ _ _ => .bind_left .get fun _ _ _ =>
    .bind_left (captureHeader_within hR.media.quiet _) fun _ _ _ => ?_
  exact .bind_left (flows_address.within fun _ => rfl) fun _ _ _ =>
    .bind_right (fun _ _ h => forward_flows h) fun _ => .pure _

end Forwarding

/-! ## Processing a packet -/

section Packets
variable {env : Env} {host : Host} {ports : List ℤ} {strict : Prop} {F : Functors Globals}
variable (hF : Holds (Flows ports strict 0) F)
include hF

theorem handleSip_spends (p : Packet) (inward : Bool) (w : Process) :
    Spends ports strict p.id w (handleSip env host F p.id p.mem p.bytes.length inward) := by
  have hR : Ignores (Flows ports strict 0) := flows_ignores
  have hstop := stopSession_within env hR.toAllows hF
  have hsip := parseSip_within_of_free env host hR.admits.calls flows_filter
    (hR.admits.setGlobals fun _ => rfl) (setServer_within host flows_address) hstop
    (parseBye_within_of_free env hR hstop (addAllRtpRules_within flows_filter.rules _ _))
  have hend : ∀ r : Mem × ℤ, Within (Flows ports strict 0) (do
      setGlobals fun g =>
        if g.rtpHdset = 0 then
          { g with rtpHeader := g.rtpHeader.write 0 (r.1.read 0 28), rtpHdset := 1 }
        else g
      return r : Op (Mem × ℤ)) := by
    refine fun r => .bind (hR.admits.setGlobals fun g => ?_) fun _ => .pure _
    split_ifs <;> rfl
  unfold handleSip
  dsimp only
  split_ifs
  · exact .of_within (Within.throw _ w)
  · refine .bind_left (hsip _ inward) fun status u _ => .bind_left .get fun v u' _ =>
      .bind_right ?_ hend
    split_ifs
    · exact .bind_right (forwardSip_spends _ _) fun _ => .pure _
    · exact .of_within (Within.pure _ _)

theorem inboundRtp_spends (p : Packet) (w : Process) (offset : ℤ) (source : BitVec 16) :
    Spends ports strict p.id w (inboundRtp env F p.id p.mem p.bytes.length offset source) := by
  have hR : Ignores (Flows ports strict 0) := flows_ignores
  have hprep := prepareInbound_within_of_free env hR.media hF
  exact .bind_left (hprep _ _ _ _) fun _ _ _ => deliverInbound_spends _ _

theorem outboundRtp_spends (p : Packet) (w : Process) (offset : ℤ) :
    Spends ports strict p.id w (outboundRtp env F p.id p.mem p.bytes.length offset) := by
  have hR : Ignores (Flows ports strict 0) := flows_ignores
  have hprep := prepareOutbound_within_of_free env hR.media hF
  refine .bind_left (hR.admits.setGlobals fun _ => rfl) fun _ _ _ => .bind_left .get fun _ _ _ => ?_
  dsimp only
  split_ifs
  · exact .of_within (Within.pure _ _)
  · exact .bind_left (hprep _ _ _) fun _ _ _ => .bind_right (deliverOutbound_spends _ _) fun _ =>
      .pure _

end Packets

/-- After a SIP packet has been handled, `is_rtp` is as it was when its branch was entered. -/
theorem handleSip_isRtp {env : Env} {host : Host} {F : Functors Globals} {p : Packet} {w v : Process}
    {r : Mem × ℤ} (hF : Holds (Flows w.ext.sipPorts True 0) F)
    (h : (handleSip env host F p.id p.mem p.bytes.length (isInward host p)).run (enterSip w p) =
      .ok (r, v)) : v.ext.isRtp = false :=
  (handleSip_spends hF p (isInward host p) (enterSip w p) r v h rfl).kind trivial rfl

/-- A packet whose functors keep to the accounts is forwarded at most once. -/
theorem processPacket_flows {env : Env} {host : Host} {F : Functors Globals} {p : Packet}
    {strict : Prop} {w w' : Process} {r : Option ℤ}
    (hF : Holds (Flows w.ext.sipPorts (strict ∨ IsSip w.ext.sipPorts p) 0) F)
    (hmedia : strict → ¬IsMedia w.ext p) (h : (processPacket env host F p).run w = .ok (r, w')) :
    Flows w.ext.sipPorts strict (single · p.id) w w' := by
  by_cases hs : IsSip w.ext.sipPorts p
  · rw [processPacket_sip hs] at h
    rcases run_bind_eq_ok h with ⟨b, v, hv, hafter⟩
    have hspends := handleSip_spends hF p (isInward host p) (enterSip w p) b v hv
    have hrtp : v.ext.isRtp = false := (hspends rfl).kind (.inr hs) rfl
    rw [afterSip, run_get_bind, if_neg (by simp [hrtp])] at hafter
    cases hafter
    exact fun _ => ⟨(hspends rfl).ports, fun _ _ => hrtp, (hspends rfl).load, (hspends rfl).settled⟩
  by_cases hm : IsMedia w.ext p
  · have hstrict : ¬strict := fun hst => hmedia hst hm
    have hbranch : Flows w.ext.sipPorts (strict ∨ IsSip w.ext.sipPorts p) (single · p.id)
        (enterRtp w p) w' := by
      rw [processPacket_media hm] at h
      split_ifs at h
      · exact Spends.bind_right (inboundRtp_spends hF p _ _ _) (fun _ => .pure _) r w' h
      · exact outboundRtp_spends hF p _ _ r w' h
    exact fun _ => ⟨(hbranch rfl).ports, fun hst => absurd hst hstrict, (hbranch rfl).load,
      (hbranch rfl).settled⟩
  · rcases dropPacket_run p w with ⟨_, isUdp, isSip, isRtp, hkind, hdrop⟩
    have heq := h.symm.trans ((processPacket_other hs hm).trans hdrop)
    cases heq
    refine fun _ => ⟨rfl, fun _ hw => ?_, fun id => Nat.le_add_right _ _, fun _ => id⟩
    exact Bool.eq_false_iff.mpr fun hr => absurd (hw.symm.trans (hkind hr)) (by decide)

/-- Reading takes the packet from the queue. -/
theorem load_dequeued {w : Process} (id : ℕ) :
    load id (dequeued w) + (nextPacket w.ext).elim 0 (fun p => single id p.id) = load id w := by
  unfold load dequeued nextPacket queued
  rcases w.ext.queue with _ | ⟨p, rest⟩
  · rfl
  · cases p with
    | none => simp
    | some p =>
      by_cases h : id = p.id
      · simp [single, h, Nat.add_assoc]
      · simp [single, h, Ne.symm h]

section Reading
variable {env : Env} {host : Host} {ports : List ℤ}

theorem unmixed_reading {handled : List Packet} {w : Process} {p : Packet}
    (h : unmixed.reading handled w = true) (hnext : nextPacket w.ext = some p)
    (hp : isProcessed handled p = true) (hs : InSip w.ext.sipPorts handled) : ¬IsMedia w.ext p := by
  intro hm
  rcases hs with ⟨q, hq, hsip⟩
  have hany : (handled.any fun q => decide (IsSip w.ext.sipPorts q)) = true :=
    List.any_eq_true.mpr ⟨q, hq, decide_eq_true hsip⟩
  simp [unmixed, hnext, hp, hm, hany] at h

/-- A read packet was counted in the queue before. -/
theorem flows_of_read {strict : Prop} {w u w' : Process} {p : Packet}
    (hu : u.ext = (dequeued w).ext) (hlog : u.log = w.log) (hnext : nextPacket w.ext = some p)
    (h : Flows ports strict (single · p.id) u w') : Flows ports strict 0 w w' := by
  intro hw
  have hports : u.ext.sipPorts = w.ext.sipPorts := by rw [hu]; rfl
  have hrtp : u.ext.isRtp = w.ext.isRtp := by rw [hu]; rfl
  have hv := h (hports.trans hw)
  refine ⟨hv.ports.trans hports, fun hs hr => hv.kind hs (hrtp.trans hr), fun id => ?_, fun id hs =>
    hv.settled id (by rwa [hlog])⟩
  have hread := load_dequeued (w := w) id
  have hload : load id u = load id (dequeued w) := by
    unfold load
    rw [hu, hlog]
    rfl
  have hle := hv.load id
  rw [hnext] at hread
  simp only [Option.elim_some] at hread
  simp only [Pi.zero_apply]
  omega

theorem receive_flows {handled : List Packet} {w : Process} {F : Functors Globals}
    (hc : unmixed.reading handled w = true) (hsend : F.send = sendRtpMessage env)
    (hr : Within (Flows ports (InSip ports ((nextPacket w.ext).toList ++ handled)) 0) F.receive) :
    WithinAt (Flows ports (InSip ports handled) 0) w (receiveRtpMessage env host F) := by
  have hF : Holds (Flows ports (InSip ports ((nextPacket w.ext).toList ++ handled)) 0) F :=
    ⟨fun d => by rw [hsend]; exact sendRtpMessage_within env flows_ignores.admits.media.quiet flows_address d, hr⟩
  intro _ w' h
  refine .single fun hw => ?_
  subst hw
  have hread : Flows w.ext.sipPorts (InSip w.ext.sipPorts handled) 0 w (afterRead w) := fun _ =>
    ⟨rfl, fun _ => id, fun id => by
      have := load_dequeued (w := w) id
      change load id (dequeued w) ≤ load id w + 0
      omega, fun _ => id⟩
  rcases receiveWith_cases h with ⟨-, rfl⟩ | ⟨p, r, hnext, -, hrun⟩ | ⟨p, r, hnext, hsignal, hrun⟩
  · exact hread rfl
  · have hless : Holds (Flows w.ext.sipPorts (InSip w.ext.sipPorts handled) 0) F :=
      Flows.holds_mono (fun ⟨q, hq, hs⟩ => ⟨q, List.mem_append_right _ hq, hs⟩) hF
    have hdata := processReceivedData_within env flows_ignores.toAllows hless _ _ _ r w' hrun
    exact flows_of_steps (.head hread hdata) rfl
  · rw [hnext] at hF
    have hboth : Holds (Flows w.ext.sipPorts
        (InSip w.ext.sipPorts handled ∨ IsSip w.ext.sipPorts p) 0) F := by
      refine Flows.holds_mono ?_ hF
      rintro (⟨q, hq, hs⟩ | hs)
      · exact ⟨q, List.mem_append_right _ hq, hs⟩
      · exact ⟨p, List.mem_append_left _ List.mem_cons_self, hs⟩
    have hmedia := unmixed_reading hc hnext (by simp [isProcessed, hsignal])
    have hpacket : Flows w.ext.sipPorts (InSip w.ext.sipPorts handled) (single · p.id)
        (afterRead w) w' :=
      processPacket_flows hboth (fun hs hm => hmedia hs ⟨hm.length, hm.protocol, hm.notSip, hm.isRtp⟩)
        hrun
    exact flows_of_read (u := afterRead w) rfl rfl hnext hpacket rfl

theorem checkedFunctors_flow (n : ℕ) (handled : List Packet) :
    Holds (Flows ports (InSip ports handled) 0) (checkedFunctors env host unmixed n handled) := by
  refine ⟨fun d => ?_, ?_⟩
  · rw [checkedFunctors_send]
    exact sendRtpMessage_within env flows_ignores.admits.media.quiet flows_address d
  · exact checkedFunctors_receive (R := fun handled => Flows ports (InSip ports handled) 0)
      (fun _ => flows_ignores.onLib (unusedMessage_within env))
      (fun _ _ _ hc hsend hr => receive_flows hc hsend hr) n handled

/-- The functors for a packet, read while others were being handled. -/
theorem checkedFunctors_packet (n : ℕ) (p : Packet) (handled : List Packet) :
    Holds (Flows ports (InSip ports handled ∨ IsSip ports p) 0)
      (checkedFunctors env host unmixed n (p :: handled)) := by
  refine Flows.holds_mono ?_ (checkedFunctors_flow n (p :: handled))
  rintro (⟨q, hq, hs⟩ | hs)
  · exact ⟨q, List.mem_cons_of_mem _ hq, hs⟩
  · exact ⟨p, List.mem_cons_self, hs⟩

end Reading

/-! ## Runs -/

section Runs
variable {env : Env} {host : Host}

/-- A checked round lets no packet be forwarded more often. -/
theorem checkedRound_flows {n : ℕ} {w w' : Process}
    (h : (checkedRound env unmixed (processPacket env host) n).run w = .ok ((), w')) :
    Accounts False 0 w w' := by
  rcases roundWith_cases h with ⟨-, rfl⟩ | ⟨p, r, hnext, hrun⟩
  · refine ⟨rfl, fun hf => hf.elim, fun id => ?_, fun _ => id⟩
    have hread := load_dequeued (w := holding w) id
    change load id (dequeued (holding w)) + _ = load id w at hread
    simp only [Pi.zero_apply]
    omega
  · have hF : Holds (Flows (dequeued (holding w)).ext.sipPorts
        (False ∨ IsSip (dequeued (holding w)).ext.sipPorts p) 0)
        (checkedFunctors env host unmixed n [p]) :=
      Flows.holds_mono (Or.imp_left False.elim) (checkedFunctors_packet n p [])
    have hpacket := processPacket_flows hF (fun hf => hf.elim) hrun
    have hread : Flows (dequeued (holding w)).ext.sipPorts False 0 (holding w) w' :=
      flows_of_read (u := dequeued (holding w)) rfl rfl hnext hpacket
    have hacc := hread rfl
    exact ⟨hacc.ports, hacc.kind, hacc.load, hacc.settled⟩

/-- What holds of every packet along a checked run. -/
def AtMostOnce (w : Process) : Prop := ∀ id, load id w ≤ 1 ∧ Settled id w.log

theorem AtMostOnce.accounts {w w' : Process} (hw : AtMostOnce w) (h : Accounts False 0 w w') :
    AtMostOnce w' := by
  intro id
  refine ⟨?_, h.settled id (hw id).2⟩
  have hload := h.load id
  simp only [Pi.zero_apply] at hload
  exact hload.trans (hw id).1

/-- A packet that comes into the queue has a number that is not in use. -/
theorem AtMostOnce.arrive {w u : Process} {p : Option Packet} (hw : AtMostOnce w)
    (hp : p.all (unmixed.arrival w) = true) (hlog : u.log = w.log)
    (hqueue : ∀ id, queued id u.ext.queue = queued id w.ext.queue + queued id [p]) : AtMostOnce u := by
  intro id
  refine ⟨?_, hlog ▸ (hw id).2⟩
  have hload := (hw id).1
  have hcount : load id u = load id w + queued id [p] := by
    unfold load
    rw [hlog, hqueue, Nat.add_assoc]
  rw [hcount]
  cases p with
  | none => simpa [queued] using hload
  | some p =>
    by_cases hid : p.id = id
    · have hfresh : load id w = 0 := by simpa [unmixed, hid] using hp
      simp [queued, hid, hfresh]
    · simpa [queued, hid] using hload

theorem atMostOnce_step {w w' : Process} (h : CheckedStep env host unmixed w w') (hw : AtMostOnce w) :
    AtMostOnce w' := by
  cases h with
  | arrive p hp => exact hw.arrive hp rfl fun id => List.countP_append
  | round n _ _ h => exact hw.accounts (checkedRound_flows h)
  | again n q _ _ ha _ h =>
    have hrefill : AtMostOnce (refilled w q) :=
      hw.arrive (p := some q) ha rfl fun id => by simp [refilled, queued, List.countP_cons]
    exact hrefill.accounts (checkedRound_flows h)
  | tick n h =>
    have hF : Holds (Flows w.ext.sipPorts False 0) (checkedFunctors env host unmixed n []) :=
      Flows.holds_mono False.elim (checkedFunctors_flow n [])
    exact hw.accounts (flows_of_steps (timerFired_within env flows_ignores.toAllows hF.send w () w' h) rfl)

theorem atMostOnce_run {w w' : Process} (h : ReflTransGen (CheckedStep env host unmixed) w w')
    (hw : AtMostOnce w) : AtMostOnce w' := by
  induction h with
  | refl => exact hw
  | tail _ hstep ih => exact atMostOnce_step hstep ih

theorem atMostOnce_begin {option : ℤ} {w : Process} (h : Begins env option w) : AtMostOnce w := by
  rcases h.globals with ⟨hlog, ttl, hext⟩
  intro id
  unfold load
  rw [hlog, hext]
  exact ⟨Nat.zero_le 1, ⟨le_rfl, le_rfl⟩⟩

end Runs

/-! ## Every packet takes its own branch -/

section Refinement
variable {env : Env} {host : Host} {F G : Functors Globals}

/-- With functors that keep `is_rtp` while a SIP packet is handled, `process_packet` does
what it should. -/
theorem processPacket_refines_own {p : Packet} (hFG : F.Refine G)
    (hF : ∀ ports, Holds (Flows ports (IsSip ports p) 0) F) :
    Refines (processPacket env host F p) (processOwn env host G p) := by
  rintro w ⟨r, w'⟩ h
  rw [processOwn, run_get_bind]
  by_cases hs : IsSip w.ext.sipPorts p
  · rw [processPacket_sip hs] at h
    rcases run_bind_eq_ok h with ⟨b, v, hv, hafter⟩
    have hrtp : v.ext.isRtp = false :=
      handleSip_isRtp (Flows.holds_mono (fun _ => hs) (hF w.ext.sipPorts)) hv
    rw [afterSip, run_get_bind, if_neg (by simp [hrtp])] at hafter
    cases hafter
    rw [if_pos hs]
    change (handleSip env host G p.id p.mem p.bytes.length (isInward host p) >>= fun _ =>
      pure none).run (enterSip w p) = _
    rw [run_bind_ok (handleSip_refines env host hFG _ _ _ _ _ _ hv)]
    rfl
  rw [if_neg hs]
  by_cases hm : IsMedia w.ext p
  · rw [processPacket_media hm] at h
    rw [if_pos hm]
    exact Refines.ite (.bind (inboundRtp_refines env hFG _ _ _ _ _) fun _ => .refl _)
      (outboundRtp_refines env hFG _ _ _ _) (enterRtp w p) (r, w') h
  · rw [if_neg hm]
    exact (processPacket_other hs hm).symm.trans h

theorem receiveRtpMessage_refines_own {w : Process} (hFG : F.Refine G)
    (hF : ∀ p ports, nextPacket w.ext = some p → Holds (Flows ports (IsSip ports p) 0) F)
    {r : Unit × Process} (h : (receiveRtpMessage env host F).run w = .ok r) :
    (receiveWith env G (processOwn env host G)).run w = .ok r := by
  have hidle : (onLib (unusedMessage env) : Op Unit).run w =
      .ok ((), { w with lib := w.lib.constructed }) := rfl
  rw [receiveWith, run_bind_ok hidle, run_bind_ok (readQueue_run _)]
  rw [receiveRtpMessage, receiveWith, run_bind_ok hidle, run_bind_ok (readQueue_run _)] at h
  dsimp only at h ⊢
  cases hnext : nextPacket w.ext with
  | none =>
    rw [hnext] at h
    exact h
  | some p =>
    rw [hnext] at h
    exact Refines.ite (.refl _) (.ite (.bind (processReceivedData_refines env hFG _ _) fun _ => .refl _)
      (.bind (processPacket_refines_own hFG fun ports => hF p ports hnext) fun _ => .refl _)) _ r h

theorem checkedFunctors_refine_own (n : ℕ) (handled : List Packet) :
    (checkedFunctors env host unmixed n handled).Refine (ownFunctors env host n) := by
  induction n generalizing handled with
  | zero => exact ⟨fun _ => .refl _, .refl _⟩
  | succ n ih =>
    refine ⟨fun _ => .refl _, fun w r h => ?_⟩
    rw [checkedFunctors, checkedFunctorsWith, run_get_bind] at h
    split_ifs at h
    · refine receiveRtpMessage_refines_own (ih _) (fun p ports hnext => ?_) h
      rw [hnext]
      exact Flows.holds_mono Or.inr (checkedFunctors_packet n p handled)
    · cases h

theorem checkedRound_refines_own (n : ℕ) :
    Refines (checkedRound env unmixed (processPacket env host) n) (ownRound env host n) :=
  roundWith_refines fun p => processPacket_refines_own (checkedFunctors_refine_own n [p]) fun _ =>
    Flows.holds_mono Or.inr (checkedFunctors_packet n p [])

/-- Every step of a checked run is one in which each packet takes its own branch. -/
theorem CheckedStepWith.own {w w' : Process} (h : CheckedStep env host unmixed w w') :
    OwnStep env host w w' := by
  cases h with
  | arrive p _ => exact .arrive p
  | round n hd _ h => exact .round n hd (checkedRound_refines_own n w _ h)
  | again n q hd hq _ _ h => exact .again n q hd hq (checkedRound_refines_own n (refilled w q) _ h)
  | tick n h => exact .tick n (timerFired_refines env (checkedFunctors_refine_own n []) w _ h)

end Refinement

/-! ## Two runs -/

/-- A call, a session, a BYE, and a media packet while the BYE waits for its answer. -/
def mixedQueue : List (Option Packet) :=
  [some (sentSip 1 "INVITE sip:a@b c=IN IP4 1.2.3.4 Content-Type: application/sdp m=audio 4000 RTP/AVP 0"),
    some (udpPacket 2 5000 (signalBytes 13 (helloAckOptions 1464))), none,
    some (receivedSip 3 "BYE sip:a"), some (udpPacket 4 5000 []),
    some (udpPacket 5 5000 (signalBytes 23 []))]

end Sqrkal.Discovery
