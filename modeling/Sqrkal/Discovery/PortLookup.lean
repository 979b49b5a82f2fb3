import Sqrkal.Discovery.Ledger

/-! # The port lookup

The loops of `process_packet` that look for the ports of a packet pass over every other entry
of their lists. The list of SIP has one entry. That of the media has a first one and then two
for each call, and of these only the second one, the port of the other endpoint, is looked at.
-/

namespace Sqrkal.Discovery
open Foundation Message Library Relation

/-! ## Every other entry -/

section EveryOther
variable {α : Type}

/-- The entries a loop looks at whose body increments the index as well. -/
def everyOther : List α → List α
  | [] => []
  | [a] => [a]
  | a :: _ :: l => a :: everyOther l

theorem everyOther_pairs (a : α) (pairs : List (α × α)) :
    everyOther (a :: pairs.flatMap fun c => [c.1, c.2]) = a :: pairs.map Prod.snd := by
  induction pairs generalizing a with
  | nil => rfl
  | cons c pairs ih => exact congrArg (a :: ·) (ih c.2)

end EveryOther

theorem matchesPort_iff (source destination : BitVec 16) (ports : List ℤ) :
    matchesPort source destination ports = true ↔
      ∃ port ∈ everyOther ports, port = source.toNat ∨ port = destination.toNat := by
  induction ports using everyOther.induct with
  | case1 => simp [matchesPort, everyOther]
  | case2 p => simp [matchesPort, everyOther]
  | case3 p q ports ih => simp [matchesPort, everyOther, ih, or_assoc]

/-! ## The ports of a packet -/

/-- The local or the remote port of a packet. -/
def IsPortOf (p : Packet) (port : ℤ) : Prop :=
  port = (htons (p.mem.load16 (transportAt p.mem))).toNat ∨
    port = (htons (p.mem.load16 (transportAt p.mem + 2))).toNat

instance (p : Packet) (port : ℤ) : Decidable (IsPortOf p port) :=
  inferInstanceAs (Decidable (_ ∨ _))

def lookup (p : Packet) (ports : List ℤ) : Bool :=
  matchesPort (htons (p.mem.load16 (transportAt p.mem)))
    (htons (p.mem.load16 (transportAt p.mem + 2))) ports

theorem lookup_iff (p : Packet) (ports : List ℤ) :
    lookup p ports = true ↔ ∃ port ∈ everyOther ports, IsPortOf p port :=
  matchesPort_iff _ _ ports

/-- The state behind the two loops. -/
def lookedUp (w : Process) (p : Packet) : Process :=
  { w with
    ext := { w.ext with
      isUdp := decide (p.mem 9 = 17), isSip := lookup p w.ext.sipPorts
      isRtp := !lookup p w.ext.sipPorts && lookup p w.ext.rtpPorts } }

section Branch
variable (env : Env) (host : Host) (F : Functors Globals) (p : Packet)

/-- The part of `process_packet` behind the two loops. -/
def processKind : Op (Option ℤ) := do
  let g := (← get).ext
  if !g.isSip && !g.isRtp then return some 0
  else
    let r ← (if g.isSip then handleSip env host F p.id p.mem p.bytes.length (isInward host p)
      else pure (p.mem, transportAt p.mem))
    afterSip env host F p r

variable {env host F p}

theorem processPacket_lookedUp {w : Process} (hlength : 28 ≤ p.bytes.length)
    (hprotocol : p.mem 9 = 17 ∨ p.mem 9 = 6) :
    (processPacket env host F p).run w = (processKind env host F p).run (lookedUp w p) := by
  rw [processPacket]
  dsimp only
  rw [if_neg (not_short hlength), if_neg (not_foreign hprotocol), run_bind_ok (setGlobals_run _ _)]
  rfl

end Branch

/-! ## The lists of a run -/

/-- A state that a run passes through, also while a packet is being handled. -/
def Visited (env : Env) (w : Process) : Prop :=
  ∃ option w₀, Begins env option w₀ ∧ ReflTransGen (LedgerStep env) w₀ w

/-- The lists after some calls, each with a port of this and one of the other endpoint. -/
structure PortsAfter (calls : List (ℤ × ℤ)) (w : Process) : Prop where
  sipPorts : w.ext.sipPorts = [5060]
  rtpPorts : w.ext.rtpPorts = 5000 :: calls.flatMap fun c => [c.1, c.2]

section Lists
variable {env : Env} {host : Host} {w w' : Process} {calls : List (ℤ × ℤ)}

theorem Reached.visited {option : ℤ} (h : Reached env host option w) : Visited env w := by
  rcases h with ⟨w₀, h₀, hrun⟩
  exact ⟨option, w₀, h₀, run_ledger hrun⟩

theorem PortsAfter.step (hw : PortsAfter calls w) (h : LedgerStep env w w') :
    ∃ calls', PortsAfter calls' w' := by
  cases h with
  | quiet hsame =>
    have hsip := congrArg Ledger.sipPorts hsame
    have hrtp := congrArg Ledger.rtpPorts hsame
    exact ⟨calls, hsip.trans hw.sipPorts, hrtp.trans hw.rtpPorts⟩
  | ports =>
    refine ⟨calls ++ [(w.ext.inport, w.ext.outport)], hw.sipPorts, ?_⟩
    rw [List.flatMap_append, ← List.cons_append, ← hw.rtpPorts]
    rfl
  | outbound packet buff bytesRead offset hrun =>
    have hledger := convertAndDeliver_ledger hrun
    have hsip := congrArg Ledger.sipPorts hledger
    have hrtp := congrArg Ledger.rtpPorts hledger
    exact ⟨calls, hsip.trans hw.sipPorts, hrtp.trans hw.rtpPorts⟩
  | bye => exact ⟨calls, hw.sipPorts, hw.rtpPorts⟩

theorem Visited.ports (h : Visited env w) : ∃ calls, PortsAfter calls w := by
  rcases h with ⟨option, w₀, h₀, hsteps⟩
  induction hsteps with
  | refl =>
    rcases h₀.globals with ⟨-, ttl, hext⟩
    exact ⟨[], by rw [hext]; rfl, by rw [hext]; rfl⟩
  | tail _ hstep ih =>
    rcases ih with ⟨calls, hcalls⟩
    exact hcalls.step hstep

end Lists

/-! ## The classification -/

/-- A packet is classified as the lists say. -/
structure Classified (w : Process) (p : Packet) : Prop where
  sip : (lookedUp w p).ext.isSip = true ↔ ∃ port ∈ w.ext.sipPorts, IsPortOf p port
  rtp : (lookedUp w p).ext.isSip = false →
    ((lookedUp w p).ext.isRtp = true ↔ ∃ port ∈ w.ext.rtpPorts, IsPortOf p port)

section Classification
variable {env : Env} {host : Host} {w : Process} {p : Packet} {calls : List (ℤ × ℤ)}

theorem PortsAfter.isSip (h : PortsAfter calls w) :
    (lookedUp w p).ext.isSip = true ↔ IsPortOf p 5060 := by
  change lookup p w.ext.sipPorts = true ↔ _
  simp [h.sipPorts, lookup_iff, everyOther]

/-- The first media port and those of the other endpoints are looked at. -/
theorem PortsAfter.isRtp (h : PortsAfter calls w) (hsip : (lookedUp w p).ext.isSip = false) :
    (lookedUp w p).ext.isRtp = true ↔ IsPortOf p 5000 ∨ ∃ c ∈ calls, IsPortOf p c.2 := by
  have hrtp : (lookedUp w p).ext.isRtp = (!(lookedUp w p).ext.isSip && lookup p w.ext.rtpPorts) := rfl
  rw [hrtp, hsip, h.rtpPorts, Bool.not_false, Bool.true_and, lookup_iff, everyOther_pairs]
  simp only [List.mem_cons, exists_eq_or_imp, List.mem_map, exists_exists_and_eq_and]

theorem PortsAfter.mem_rtpPorts (h : PortsAfter calls w) : (∃ port ∈ w.ext.rtpPorts, IsPortOf p port) ↔
    IsPortOf p 5000 ∨ (∃ c ∈ calls, IsPortOf p c.1) ∨ ∃ c ∈ calls, IsPortOf p c.2 := by
  rw [h.rtpPorts]
  constructor
  · rintro ⟨port, hport, hp⟩
    rcases List.mem_cons.mp hport with rfl | hport
    · exact .inl hp
    · obtain ⟨c, hc, hport⟩ := List.mem_flatMap.mp hport
      simp only [List.mem_cons, List.not_mem_nil, or_false] at hport
      rcases hport with rfl | rfl
      · exact .inr (.inl ⟨c, hc, hp⟩)
      · exact .inr (.inr ⟨c, hc, hp⟩)
  · rintro (hp | ⟨c, hc, hp⟩ | ⟨c, hc, hp⟩)
    · exact ⟨5000, List.mem_cons_self, hp⟩
    · exact ⟨c.1, List.mem_cons_of_mem _ (List.mem_flatMap.mpr ⟨c, hc, by simp⟩), hp⟩
    · exact ⟨c.2, List.mem_cons_of_mem _ (List.mem_flatMap.mpr ⟨c, hc, by simp⟩), hp⟩

/-- Wherever a run gets to, a UDP or TCP packet goes on with the classification of the loops. The
one for SIP is always right, and the other exactly if the packet is a SIP packet, has a port
that is looked at, or has none of the local media ports of the calls. -/
theorem classified_iff (h : Visited env w) (hlength : 28 ≤ p.bytes.length)
    (hprotocol : p.mem 9 = 17 ∨ p.mem 9 = 6) :
    (∀ F, (processPacket env host F p).run w = (processKind env host F p).run (lookedUp w p)) ∧
    ∃ calls, PortsAfter calls w ∧
      ((lookedUp w p).ext.isSip = true ↔ ∃ port ∈ w.ext.sipPorts, IsPortOf p port) ∧
      (Classified w p ↔ IsPortOf p 5060 ∨ IsPortOf p 5000 ∨ (∃ c ∈ calls, IsPortOf p c.2) ∨
        ∀ c ∈ calls, ¬IsPortOf p c.1) := by
  refine ⟨fun F => processPacket_lookedUp hlength hprotocol, ?_⟩
  rcases h.ports with ⟨calls, hcalls⟩
  have hsip : (lookedUp w p).ext.isSip = true ↔ ∃ port ∈ w.ext.sipPorts, IsPortOf p port := by
    rw [hcalls.isSip, hcalls.sipPorts]
    simp
  refine ⟨calls, hcalls, hsip, ?_⟩
  constructor
  · intro hclassified
    by_cases hp : IsPortOf p 5060
    · exact .inl hp
    · have hnot : (lookedUp w p).ext.isSip = false :=
        Bool.eq_false_iff.mpr fun hs => hp (hcalls.isSip.mp hs)
      have hiff := hclassified.rtp hnot
      rw [hcalls.isRtp hnot, hcalls.mem_rtpPorts] at hiff
      by_cases hseen : IsPortOf p 5000 ∨ ∃ c ∈ calls, IsPortOf p c.2
      · exact .inr (or_assoc.mp (.inl hseen))
      · refine .inr (.inr (.inr fun c hc hport => hseen ?_))
        exact hiff.mpr (.inr (.inl ⟨c, hc, hport⟩))
  · intro hport
    refine ⟨hsip, fun hnot => ?_⟩
    rw [hcalls.isRtp hnot, hcalls.mem_rtpPorts]
    rcases hport with hp | hp | hp | hp
    · rw [hcalls.isSip.mpr hp] at hnot
      cases hnot
    · simp [hp]
    · simp [hp]
    · have hnone : ¬∃ c ∈ calls, IsPortOf p c.1 := by
        rintro ⟨c, hc, hport⟩
        exact hp c hc hport
      rw [or_iff_right hnone]

end Classification

/-! ## A call and two packets -/

/-- A call with the media ports 4000 here and 4002 there. -/
def agreedCall : List (Option Packet) :=
  [some (sentSip 1 "INVITE sip:a@b Content-Type: application/sdp m=audio 4000 RTP/AVP "),
    some (receivedSip 2 "SIP/2.0 200 OK Content-Type: application/sdp m=audio 4002 RTP/AVP ")]

theorem agreedCall_reached : ∃ w, Reached (Env.constant 0) localHost 0 w ∧
    w.ext.sipPorts = [5060] ∧ w.ext.rtpPorts = [5000, 4000, 4002] := by
  have hcheck : endsIn (session (Env.constant 0) localHost 0 agreedCall 1 2) (atMain (Env.constant 0))
      (fun w => decide (w.ext.sipPorts = [5060] ∧ w.ext.rtpPorts = [5000, 4000, 4002])) = true := by
    decide +kernel
  rcases endsIn_run hcheck with ⟨_, w, hrun, hw⟩
  exact ⟨w, session_run hrun, of_decide_eq_true hw⟩

/-- A packet on the port of the other endpoint is classified as the lists say. -/
theorem classified_iff_called : ∃ w, Reached (Env.constant 0) localHost 0 w ∧
    w.ext.rtpPorts = [5000, 4000, 4002] ∧ Classified w (udpPacket 3 4002 []) := by
  rcases agreedCall_reached with ⟨w, hreached, -, hrtp⟩
  refine ⟨w, hreached, hrtp, ?_⟩
  obtain ⟨-, calls, hcalls, -, hiff⟩ := @classified_iff _ localHost w (udpPacket 3 4002 [])
    hreached.visited (by decide) (by decide +kernel)
  have hpairs := hcalls.rtpPorts.symm.trans hrtp
  cases calls with
  | nil => cases hpairs
  | cons c calls =>
    have hremote : c.2 = 4002 := by
      simp only [List.flatMap_cons, List.cons_append, List.cons.injEq] at hpairs
      exact hpairs.2.2.1
    refine hiff.mpr (.inr (.inr (.inl ⟨c, List.mem_cons_self, ?_⟩)))
    rw [hremote]
    decide +kernel

/-- A packet on the local media port of the call is not taken for media. -/
theorem local_port_not_seen : ¬∀ (env : Env) (host : Host) (option : ℤ) (w : Process) (p : Packet),
    Reached env host option w → 28 ≤ p.bytes.length → p.mem 9 = 17 ∨ p.mem 9 = 6 →
    Classified w p := by
  intro hclaim
  rcases agreedCall_reached with ⟨w, hreached, hsip, hrtp⟩
  have hclassified := hclaim _ _ _ w (udpPacket 3 4000 []) hreached (by decide) (by decide +kernel)
  have hlookup : (lookedUp w (udpPacket 3 4000 [])).ext.isSip = false ∧
      (lookedUp w (udpPacket 3 4000 [])).ext.isRtp = false := by
    change lookup _ w.ext.sipPorts = false ∧ (!lookup _ w.ext.sipPorts && lookup _ w.ext.rtpPorts) = false
    rw [hsip, hrtp]
    decide +kernel
  have hseen := (hclassified.rtp hlookup.1).mpr ⟨4000, by rw [hrtp]; decide, by decide +kernel⟩
  rw [hlookup.2] at hseen
  cases hseen

end Sqrkal.Discovery
