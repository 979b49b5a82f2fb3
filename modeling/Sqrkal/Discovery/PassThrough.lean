import Sqrkal.Discovery.Dummies
import Sqrkal.Discovery.Effects
import Sqrkal.Discovery.Fragments
import Sqrkal.Handshake.Answering

/-! # What happens to a media packet while SRPP is off

The packet goes through the branch as it came: all that is written to it are the fields
that send it on. What can still go wrong is the signalling message it may hold, which is
decoded and answered before the packet is forwarded.
-/

namespace Sqrkal.Discovery
open Foundation Mem Message Library Handshake Relation

/-! ## Meanwhile other packets are processed -/

/-- No packet of this number is waiting. -/
def NoneQueued (id : ℕ) (w : Process) : Prop := ∀ q, some q ∈ w.ext.queue → q.id ≠ id

/-- Between two states nothing has been said about a packet, if none of its number was
waiting. -/
def Spares (id : ℕ) (w w' : Process) : Prop :=
  NoneQueued id w →
    NoneQueued id w' ∧ ∃ events, w'.log = events ++ w.log ∧ ∀ e ∈ events, ¬IsOf id e

section Spares
variable {id : ℕ} {w w' : Process}

theorem spares_of_steps (h : ReflTransGen (Spares id) w w') : Spares id w w' := by
  intro hw
  induction h with
  | refl => exact ⟨hw, [], rfl, by simp⟩
  | tail _ hstep ih =>
    rcases ih with ⟨hu, events, hlog, hevents⟩
    rcases hstep hu with ⟨hv, events', hlog', hevents'⟩
    refine ⟨hv, events' ++ events, by rw [hlog', hlog, List.append_assoc], fun e he => ?_⟩
    rcases List.mem_append.mp he with he | he
    · exact hevents' e he
    · exact hevents e he

theorem spares_globals : Permits (Spares id) Globals.queue := by
  intro w g hqueue hw
  exact ⟨fun q hq => hw q (hqueue ▸ hq), [], rfl, by simp⟩

theorem spares_event {e : Event} (he : ¬IsOf id e) (l : Lib) : Spares id w ⟨l, w.ext, e :: w.log⟩ := by
  intro hw
  refine ⟨hw, [e], rfl, fun e' he' => ?_⟩
  rwa [List.mem_singleton.mp he']

theorem IsOf.isAboutPacket {e : Event} (h : IsOf id e) : IsAboutPacket e := by
  cases e <;> trivial

theorem spares_ignores : Ignores (Spares id) where
  lib _ _ _ := fun hw => ⟨hw, [], rfl, by simp⟩
  complete _ := spares_event (e := .completed) (fun h => h) _
  globals := spares_globals.weaken Core.queue fun _ => rfl
  apply _ := fun hw => ⟨hw, [], rfl, by simp⟩
  event w _ he := spares_event (fun h => he h.isAboutPacket) w.lib

theorem spares_filter : Permits (Spares id) Globals.beyondFilter :=
  spares_globals.weaken Globals.queue fun _ => rfl

theorem spares_address : Permits (Spares id) Globals.beyondAddress :=
  spares_globals.weaken Globals.queue fun _ => rfl

theorem spares_kind : Permits (Spares id) Globals.beyondKind :=
  spares_globals.weaken Globals.queue fun _ => rfl

end Spares

section Nested
variable {id : ℕ} {env : Env} {host : Host} {F : Functors Globals}

theorem parseSip_spares (hF : Holds (Spares id) F) (s : List Byte) (inward : Bool) :
    Within (Spares id) (parseSip env host F s inward) := by
  have hR : Ignores (Spares id) := spares_ignores
  have hstop := stopSession_within env hR.toAllows hF
  exact parseSip_within_of_free env host hR.admits.calls spares_filter
    (hR.admits.setGlobals fun _ => rfl) (setServer_within host spares_address) hstop
    (parseBye_within_of_free env hR hstop (addAllRtpRules_within spares_filter.rules _ _)) s inward

theorem processPacket_spares (hF : Holds (Spares id) F) {p : Packet} (hp : p.id ≠ id) :
    Within (Spares id) (processPacket env host F p) := by
  have hR : Ignores (Spares id) := spares_ignores
  intro w
  have hother : ∀ (w : Process) (e : Event), IsOf p.id e → Spares id w { w with log := e :: w.log } := by
    refine fun w e he => spares_event ?_ w.lib
    intro h
    cases e <;> first | exact hp (he.symm.trans h) | exact h
  exact processPacket_within env host hR.admits.media.quiet hother spares_kind
    (handleRtp_within env hother spares_kind hR.admits.media
      (prepareInbound_within_of_free env hR.media hF) (prepareOutbound_within_of_free env hR.media hF))
    fun _ u _ => parseSip_spares hF _ _ u

theorem mem_queue_of_nextPacket {w : Process} {p : Packet} (h : nextPacket w.ext = some p) :
    some p ∈ w.ext.queue := by
  unfold nextPacket at h
  split at h
  · next q rest hq =>
    cases h
    rw [hq]
    exact List.mem_cons_self
  · cases h

theorem spares_afterRead (w : Process) : Spares id w (afterRead w) := fun hw =>
  ⟨fun q hq => hw q (List.mem_of_mem_tail hq), [], rfl, by simp⟩

theorem receiveRtpMessage_spares (hF : Holds (Spares id) F) :
    Within (Spares id) (receiveRtpMessage env host F) := by
  intro w _ w' h
  by_cases hw : NoneQueued id w
  · refine .head (spares_afterRead w) ?_
    rcases receiveWith_cases h with ⟨-, rfl⟩ | ⟨p, r, -, -, hrun⟩ | ⟨p, r, hnext, -, hrun⟩
    · exact .refl
    · exact processReceivedData_within env spares_ignores.toAllows hF _ _ _ r w' hrun
    · exact processPacket_spares hF (hw p (mem_queue_of_nextPacket hnext)) _ r w' hrun
  · exact .single fun hn => absurd hn hw

theorem functors_spare (n : ℕ) : Holds (Spares id) (functors env host n) := by
  have hsend := sendRtpMessage_within env (@spares_ignores id).admits.media.quiet spares_address
  induction n with
  | zero => exact ⟨hsend, spares_ignores.onLib (unusedMessage_within env)⟩
  | succ n ih => exact ⟨hsend, receiveRtpMessage_spares ih⟩

end Nested

/-! ## The signalling message in a packet -/

section Handler
variable {env : Env} {F : Functors Globals} {w : Process}

theorem sendRtpMessage_exits {d : List Byte} (hd : d ≠ []) (h : w.ext.rtpHdset = 0) :
    (sendRtpMessage env d).run w = .error .exited := by
  have htick : (onLib nextTick : Op ℕ).run w = .ok (w.lib.tick, { w with lib := w.lib.ticked }) := rfl
  rw [sendRtpMessage, if_neg hd, run_bind_ok htick, run_get_bind, if_pos h]
  rfl

theorem sendRtpMessage_returns (d : List Byte) (h : w.ext.rtpHdset ≠ 0) :
    ∃ r v, (sendRtpMessage env d).run w = .ok (r, v) ∧ v.lib.flags = w.lib.flags := by
  have htick : (onLib nextTick : Op ℕ).run w = .ok (w.lib.tick, { w with lib := w.lib.ticked }) := rfl
  rw [sendRtpMessage]
  split_ifs
  · exact ⟨_, w, rfl, rfl⟩
  · rw [run_bind_ok htick, run_get_bind, if_neg h]
    exact ⟨_, _, rfl, rfl⟩

/-- An answer without stored headers ends the process. -/
theorem answerWith_exits {kind : BitVec 32} {d : List Byte} (hsend : F.send = sendRtpMessage env)
    (hd : d ≠ []) (h : w.ext.rtpHdset = 0) : (answerWith F kind d).run w = .error .exited := by
  rw [answerWith, hsend]
  exact run_bind_error (sendRtpMessage_exits hd h)

/-- The functors of a process that finds no packet to read. -/
def withoutReads (F : Functors Globals) : Functors Globals := { F with receive := pure () }

/-- What is left of an answer once it is sent and noted. -/
theorem answerWith_sends {kind : BitVec 32} {d : List Byte} (h : w.ext.rtpHdset ≠ 0) :
    ∃ u : Process, u.lib.flags.signalingComplete = w.lib.flags.signalingComplete ∧
      ∀ F : Functors Globals, F.send = sendRtpMessage env → (answerWith F kind d).run w = (do
        (if !u.lib.flags.signalingComplete then F.receive else pure ())
        if kind = 13 then setFlags fun f => { f with hellosent := false, helloackrecvd := false }
        else pure () : Op Unit).run u := by
  obtain ⟨r, v, hr, hflags⟩ := @sendRtpMessage_returns env w d h
  refine ⟨{ v with lib := { v.lib with
    packetToSend := 0, flags := { v.lib.flags with helloacksent := true } } }, ?_, fun F hsend => ?_⟩
  · rw [← hflags]
  · rw [answerWith, hsend, run_bind_ok hr]
    rfl

/-- An answer returns exactly if the read behind it does. -/
theorem answerWith_returns_iff {kind : BitVec 32} {d : List Byte} (hsend : F.send = sendRtpMessage env)
    (h : w.ext.rtpHdset ≠ 0) (hk : kind = 13 → w.lib.flags.signalingComplete = true) :
    (∃ v, (answerWith F kind d).run w = .ok ((), v)) ↔
      (w.lib.flags.signalingComplete = false → ∀ u,
        (answerWith (withoutReads F) kind d).run w = .ok ((), u) →
          ∃ v, F.receive.run u = .ok ((), v)) := by
  obtain ⟨u, hu, hrest⟩ := @answerWith_sends env w kind d h
  have hrun := hrest F hsend
  have hidle := hrest (withoutReads F) hsend
  cases hc : w.lib.flags.signalingComplete with
  | true =>
    rw [hc] at hu
    rw [hrun, hu]
    refine ⟨fun _ hfalse => (nomatch hfalse), fun _ => ?_⟩
    by_cases h13 : kind = 13
    · rw [if_pos h13]
      exact ⟨_, rfl⟩
    · rw [if_neg h13]
      exact ⟨_, rfl⟩
  | false =>
    have hne : kind ≠ 13 := fun h13 => absurd (hk h13) (by rw [hc]; decide)
    rw [hc] at hu
    simp only [hu, Bool.not_false, if_true, if_neg hne, bind_pure_unit] at hrun hidle
    rw [hrun, hidle]
    exact ⟨fun hv _ x hx => by cases hx; exact hv, fun hread => hread rfl u rfl⟩

/-- The type of the signalling message in memory. -/
def kindOf (mem : Mem) : BitVec 32 := (SRPPHeader.load mem 0).ofWire.srppSignalling

/-- A signalling message can be handled: it can be decoded, and if it is answered there are
stored headers to send the answer with. -/
def canHandle (w : Process) (mem : Mem) (bytes : ℤ) : Prop :=
  decodable mem bytes ∧
    (bySip w.lib ∨ isAnswered w.lib.flags (kindOf mem) = false ∨ w.ext.rtpHdset ≠ 0)

instance (w : Process) (mem : Mem) (bytes : ℤ) : Decidable (canHandle w mem bytes) :=
  inferInstanceAs (Decidable (_ ∧ _))

/-- The handler of the message reads on: it has answered a HELLO. -/
def readsOn (l : Lib) (mem : Mem) : Prop :=
  ¬bySip l ∧ kindOf mem = 12 ∧ isAnswered l.flags 12 = true ∧ l.flags.signalingComplete = false

theorem isAnswered_kind {f : Flags} {kind : BitVec 32} (h : isAnswered f kind = true)
    (hk : kind ≠ 13) : kind = 12 := by
  simp only [isAnswered, hk, decide_false, Bool.false_and, Bool.or_false, Bool.and_eq_true,
    decide_eq_true_eq] at h
  exact h.2.1

/-- The packet that the handler of a message reads on is processed to its end. -/
def readReturns (env : Env) (F : Functors Globals) (w : Process) (mem : Mem) (bytes : ℤ) : Prop :=
  readsOn w.lib mem → ∀ r u,
    (processReceivedData env (withoutReads F) mem bytes).run w = .ok (r, u) →
      ∃ v, F.receive.run u = .ok ((), v)

/-- A signalling message is handled exactly if it can be and what is read on returns. -/
theorem handler_returns_iff {mem : Mem} (bytes : ℤ) (hsend : F.send = sendRtpMessage env)
    (hs : isSignalingBuffer mem = 1) :
    (∃ r u, (processReceivedData env F mem bytes).run w = .ok (r, u)) ↔
      canHandle w mem bytes ∧ readReturns env F w mem bytes := by
  by_cases hd : decodable mem bytes
  swap
  · rw [processReceivedData_stops env F bytes hs hd]
    exact ⟨fun ⟨_, _, h⟩ => (nomatch h), fun h => absurd h.1.1 hd⟩
  by_cases hb : bySip w.lib
  · exact ⟨fun _ => ⟨⟨hd, .inl hb⟩, fun hreads => absurd hb hreads.1⟩,
      fun _ => processReceivedData_returns_bySip env F bytes hs hd hb⟩
  obtain ⟨msg, hkind, hrun⟩ := processReceivedData_dispatches env bytes hs hd hb
  let v : Process := { w with lib := w.lib.constructed }
  cases ha : isAnswered w.lib.flags (kindOf mem) with
  | false =>
    obtain ⟨v', hv⟩ := @dispatch_returns _ env F v msg (by rw [hkind]; exact ha)
    rw [hrun F, run_bind_ok hv]
    refine ⟨fun _ => ⟨⟨hd, .inr (.inl ha)⟩, fun hreads => ?_⟩, fun _ => ⟨_, _, rfl⟩⟩
    rw [hreads.2.1, hreads.2.2.1] at ha
    cases ha
  | true =>
    obtain ⟨d, u, hne, hext, hcomplete, hdispatch⟩ :=
      @dispatch_answers _ env v msg (by rw [hkind]; exact ha)
    by_cases hset : w.ext.rtpHdset = 0
    · have hexit := @answerWith_exits env F u msg.srppHeader.srppSignalling d hsend hne
        (show u.ext.rtpHdset = 0 by rw [hext]; exact hset)
      rw [hrun F, run_bind_error ((hdispatch F).trans hexit)]
      refine ⟨fun ⟨_, _, h⟩ => (nomatch h), fun h => ?_⟩
      rcases h.1.2 with h | h | h
      · exact absurd h hb
      · rw [ha] at h
        cases h
      · exact absurd hset h
    -- what is left is the answer, and the handler reads on if the handshake is not complete
    · have hreads : readsOn w.lib mem ↔ u.lib.flags.signalingComplete = false := by
        rw [hcomplete, Bool.or_eq_false_iff]
        constructor
        · rintro ⟨-, hk, -, hc⟩
          exact ⟨hc, by rw [hkind, show (SRPPHeader.load mem 0).ofWire.srppSignalling = 12 from hk]; rfl⟩
        · rintro ⟨hc, hk⟩
          have h12 : kindOf mem = 12 := isAnswered_kind ha fun h13 => by
            rw [hkind, show (SRPPHeader.load mem 0).ofWire.srppSignalling = 13 from h13] at hk
            cases hk
          exact ⟨hb, h12, by rw [← h12]; exact ha, hc⟩
      have hreturns : ∀ F' : Functors Globals, ∀ x,
          (∃ r, (processReceivedData env F' mem bytes).run w = .ok (r, x)) ↔
            (answerWith F' msg.srppHeader.srppSignalling d).run u = .ok ((), x) := by
        intro F' x
        rw [hrun F', ← hdispatch F']
        constructor
        · rintro ⟨r, hr⟩
          rcases run_bind_eq_ok hr with ⟨_, x', hx, hend⟩
          cases hend
          exact hx
        · intro hx
          exact ⟨_, by rw [run_bind_ok hx]; rfl⟩
      have hiff := @answerWith_returns_iff env F u msg.srppHeader.srppSignalling d hsend
        (show u.ext.rtpHdset ≠ 0 by rw [hext]; exact hset) fun h13 => by
          rw [hcomplete, h13]
          simp
      have hread : readReturns env F w mem bytes ↔ (u.lib.flags.signalingComplete = false → ∀ x,
          (answerWith (withoutReads F) msg.srppHeader.srppSignalling d).run u = .ok ((), x) →
            ∃ v, F.receive.run x = .ok ((), v)) := by
        rw [readReturns, hreads]
        exact ⟨fun h hc x hx => by
            rcases (hreturns _ x).mpr hx with ⟨r, hr⟩
            exact h hc r x hr,
          fun h hc r x hr => h hc x ((hreturns _ x).mp ⟨r, hr⟩)⟩
      rw [exists_comm, hread, ← hiff, exists_congr (hreturns F)]
      exact ⟨fun h => ⟨⟨hd, .inr (.inr hset)⟩, h⟩, fun h => h.2⟩

end Handler

/-! ## The fields that are rewritten -/

/-- The end of both media branches: the headers for another destination. -/
def readdress (port : BitVec 16) (addr : BitVec 32) (ttl : ℤ) (buff : Mem) (bytesRead offset : ℤ) :
    Mem :=
  let buff := setDaddr (buff.store16 (offset + 2) port) addr
  let buff := buff.store16 (offset + 4) (htonsInt (bytesRead - 20))
  setTtl (setTotLen buff (htonsInt bytesRead)) ttl

theorem addressInbound_eq (g : Globals) (buff : Mem) (bytesRead offset : ℤ) :
    addressInbound g buff bytesRead offset = readdress (htonsInt g.inport)
      (if g.rtpSrc = 0 then loopback else g.rtpSrc) g.srppTtl buff bytesRead offset := rfl

theorem addressOutbound_eq (g : Globals) (buff : Mem) (bytesRead offset : ℤ) :
    addressOutbound g buff bytesRead offset =
      readdress (htonsInt g.outport) g.rtpDest g.srppTtl buff bytesRead offset := rfl

/-- Time to live, the two checksums, the destination and its port. -/
def rewritten : List ℕ := [8, 10, 11, 16, 17, 18, 19, 22, 23, 26, 27]

/-- A packet with a header of twenty bytes whose length fields say how long it is. -/
structure IsConsistent (p : Packet) : Prop where
  udp : p.mem 9 = 17
  header : ihl p.mem = 5
  totLen : p.mem.load16 2 = htonsInt p.bytes.length
  udpLen : p.mem.load16 24 = htonsInt (p.bytes.length - 20)

instance (p : Packet) : Decidable (IsConsistent p) :=
  decidable_of_iff (p.mem 9 = 17 ∧ ihl p.mem = 5 ∧ p.mem.load16 2 = htonsInt p.bytes.length ∧
    p.mem.load16 24 = htonsInt (p.bytes.length - 20))
    ⟨fun h => ⟨h.1, h.2.1, h.2.2.1, h.2.2.2⟩, fun h => ⟨h.udp, h.header, h.totLen, h.udpLen⟩⟩

section Readdress
variable {p : Packet} (hp : IsConsistent p) (port : BitVec 16) (addr : BitVec 32) (ttl : ℤ)
include hp

theorem IsConsistent.transportAt : transportAt p.mem = 20 := transportAt_of_ihl hp.header

/-- With consistent lengths only the fields of the destination and the time to live change. -/
theorem readdress_apply {a : ℤ} (h8 : a ≠ 8) (h16 : a < 16 ∨ 20 ≤ a) (h22 : a < 22 ∨ 24 ≤ a) :
    readdress port addr ttl p.mem p.bytes.length 20 a = p.mem a := by
  have hlen : ((p.mem.store16 22 port).store32 16 addr).load16 24 = htonsInt (p.bytes.length - 20) := by
    rw [store32, load16_write_of_disjoint (by simp), store16, load16_write_of_disjoint (by simp)]
    exact hp.udpLen
  have htot : ((p.mem.store16 22 port).store32 16 addr).load16 2 = htonsInt p.bytes.length := by
    rw [store32, load16_write_of_disjoint (by simp), store16, load16_write_of_disjoint (by simp)]
    exact hp.totLen
  unfold readdress setTtl setTotLen setDaddr
  rw [show (20 : ℤ) + 2 = 22 from rfl, show (20 : ℤ) + 4 = 24 from rfl, ← hlen, store16_load16,
    ← htot, store16_load16, write_apply_outside (by simp; omega), store32,
    write_apply_outside (by simp; omega), store16, write_apply_outside (by simp; omega)]

theorem ihl_readdress : ihl (readdress port addr ttl p.mem p.bytes.length 20) = 5 := by
  rw [← hp.header]
  exact ihl_congr (readdress_apply hp port addr ttl (by omega) (by omega) (by omega))

/-- The datagram that is sent is the packet, apart from the rewritten fields. -/
theorem readdress_read {i : ℕ} (hi : i ∉ rewritten) :
    ((formChecksums (readdress port addr ttl p.mem p.bytes.length 20)).read 0 p.bytes.length)[i]? =
      p.bytes[i]? := by
  by_cases hlt : i < p.bytes.length
  swap
  · rw [List.getElem?_eq_none (by simpa using hlt), List.getElem?_eq_none (not_lt.mp hlt)]
  have hframe : AgreesOn (formChecksums (readdress port addr ttl p.mem p.bytes.length 20))
      (readdress port addr ttl p.mem p.bytes.length 20) i (i + 1) := by
    simp only [rewritten, List.mem_cons, List.not_mem_nil, or_false, not_or] at hi
    exact formChecksums_frame (ihl_readdress hp port addr ttl) (by omega) (by omega)
  simp only [rewritten, List.mem_cons, List.not_mem_nil, or_false, not_or] at hi
  rw [List.getElem?_eq_getElem (by simpa using hlt), read_getElem, zero_add,
    hframe i le_rfl (by omega), readdress_apply hp port addr ttl (by omega) (by omega) (by omega),
    List.getElem?_eq_getElem hlt]
  have hbyte := write_apply_inside p.rest 0 p.bytes i hlt
  rw [zero_add] at hbyte
  rw [Packet.mem, around, hbyte]

end Readdress

/-! ## A packet while SRPP is off -/

section Branches
variable (env : Env) (host : Host) (F : Functors Globals)

/-- `start_SRPP` returns with an error, and no packet that was processed meanwhile has
started a session. -/
def StartFails (u : Process) : Prop := ∃ status u', (startSrpp env F).run u = .ok (status, u') ∧
  status < 0 ∧ u'.ext.applySrpp = false

variable {env F} in
/-- A packet is not converted while SRPP is off and cannot be started. -/
theorem startAndConvert_off {starts : Globals → Bool} {convert : Op (Mem × ℤ)} {r : Mem × ℤ}
    {u : Process} (hoff : u.ext.applySrpp = false) (hstart : starts u.ext = true → StartFails env F u) :
    ∃ v, (startAndConvert env F starts convert r).run u = .ok (r, v) := by
  cases hs : starts u.ext with
  | false =>
    rw [startAndConvert, run_bind_ok (startIf_idle hs), run_get_bind, if_neg (by rw [hoff]; decide)]
    exact ⟨u, rfl⟩
  | true =>
    rcases hstart hs with ⟨status, v, hrun, hneg, hv⟩
    have htry : (startIf env F starts).run u = .ok ((), v) := by
      rw [startIf, run_get_bind, if_pos hs, tryStart, run_bind_ok hrun, if_neg (not_le.mpr hneg)]
      rfl
    rw [startAndConvert, run_bind_ok htry, run_get_bind, if_neg (by rw [hv]; decide)]
    exact ⟨v, rfl⟩

/-- The state in which the signalling message of an inbound packet is handled. -/
def arrived (w : Process) (p : Packet) : Process :=
  { enterRtp w p with
    ext := { (enterRtp w p).ext with rtpDest := saddr p.mem, recvCount := w.ext.recvCount + 1 } }

/-- SRPP is off and stays off while a packet is processed: every start of a session fails. -/
structure StaysOff (w : Process) (p : Packet) : Prop where
  off : w.ext.applySrpp = false
  inbound : IsInward host p → ∀ u,
    (announce env F p.mem p.bytes.length).run (enterRtp w p) = .ok ((), u) →
    u.ext.applySrpp = false ∧
      (startsInbound u.ext (htons (p.mem.load16 (transportAt p.mem))) = true → StartFails env F u)
  outbound : ¬IsInward host p → startsOutbound (leaving w p).ext = true →
    StartFails env F (leaving w p)

/-- A media packet of a call with known ends, and no other packet of its number. -/
structure IsCallMedia (w : Process) (p : Packet) : Prop where
  media : IsMedia w.ext p
  consistent : IsConsistent p
  fits : p.bytes.length ≤ 1500
  ends : w.ext.inport ≠ 0 ∧ w.ext.outport ≠ 0 ∧ w.ext.rtpDest ≠ 0
  number : NoneQueued p.id w

/-- The packet has been handed over once to be sent to the port of the other side, and the one
datagram the raw socket was given is the packet apart from the rewritten fields. -/
def PassedThrough (p : Packet) (w w' : Process) : Prop := ∃ buff events,
  w'.log = rawEvents p.id buff w'.ext.outAddr p.bytes.length ++
    .handedOver p.id :: (events ++ w.log) ∧
  w'.ext.outAddr.port = htonsInt (if IsInward host p then w'.ext.inport else w'.ext.outport) ∧
  (∀ e ∈ events, ¬IsOf p.id e) ∧
  ∀ i, i ∉ rewritten → (buff.read 0 p.bytes.length)[i]? = p.bytes[i]?

end Branches

section Passing
variable {env : Env} {host : Host} {F : Functors Globals} {w : Process} {p : Packet}

/-- The signalling message of an inbound packet, if there is one, can be handled, and what its
handler reads on is processed to its end. -/
def passesThrough (env : Env) (host : Host) (F : Functors Globals) (w : Process) (p : Packet) : Prop :=
  IsInward host p → isSignalingBuffer (p.mem.shift 28) = 1 →
    canHandle w (p.mem.shift 28) (p.bytes.length - 28) ∧
      readReturns env F (arrived w p) (p.mem.shift 28) (p.bytes.length - 28)

theorem deliverInbound_passes {v : Process} {events : List Event} (hin : IsInward host p)
    (hp : IsConsistent p)
    (hfits : p.bytes.length ≤ 1500) (hlog : v.log = events ++ w.log)
    (hevents : ∀ e ∈ events, ¬IsOf p.id e) :
    ∃ w', (deliverInbound env p.id p.mem p.bytes.length (transportAt p.mem)).run v = .ok ((), w') ∧
      PassedThrough host p w w' := by
  have hsize : (p.bytes.length : ℤ) ≤ ipMtu := by
    rw [ipMtu]
    omega
  let point := readdress (htonsInt v.ext.inport) (if v.ext.rtpSrc = 0 then loopback else v.ext.rtpSrc)
    v.ext.srppTtl p.mem p.bytes.length 20
  let u : Process := { v with ext := { v.ext with outAddr := ⟨daddr point, htonsInt v.ext.inport⟩ } }
  let sent := rawEvents p.id (formChecksums point) u.ext.outAddr p.bytes.length
  have hforward := forward_fits env p.id point u hsize
  refine ⟨{ u with log := sent ++ .handedOver p.id :: v.log }, ?_, formChecksums point, events, ?_,
    by rw [if_pos hin], hevents, fun i hi => readdress_read hp _ _ _ hi⟩
  · rw [deliverInbound, run_get_bind, hp.transportAt]
    dsimp only
    rw [addressInbound_eq, run_bind_ok (setGlobals_run _ _), run_bind_ok hforward]
    rfl
  · rw [← hlog]

theorem deliverOutbound_passes {v : Process} {events : List Event} (hout : ¬IsInward host p)
    (hp : IsConsistent p)
    (hfits : p.bytes.length ≤ 1500) (hlog : v.log = events ++ w.log)
    (hevents : ∀ e ∈ events, ¬IsOf p.id e) :
    ∃ w', (deliverOutbound env p.id p.mem p.bytes.length (transportAt p.mem)).run v = .ok ((), w') ∧
      PassedThrough host p w w' := by
  have hsize : (p.bytes.length : ℤ) ≤ ipMtu := by
    rw [ipMtu]
    omega
  let point := readdress (htonsInt v.ext.outport) v.ext.rtpDest v.ext.srppTtl p.mem p.bytes.length 20
  let noted : Process :=
    { v with ext := { v.ext with outputPacketSizes := v.ext.outputPacketSizes ++ [(p.bytes.length : ℤ)] } }
  rcases captureHeader_run point noted with ⟨header, hdset, hcapture⟩
  let u : Process := { noted with ext := { noted.ext with
    rtpHeader := header, rtpHdset := hdset, outAddr := ⟨v.ext.rtpDest, htonsInt v.ext.outport⟩ } }
  let sent := rawEvents p.id (formChecksums point) u.ext.outAddr p.bytes.length
  have hforward := forward_fits env p.id point u hsize
  refine ⟨{ u with log := sent ++ .handedOver p.id :: v.log }, ?_, formChecksums point, events, ?_,
    by rw [if_neg hout], hevents, fun i hi => readdress_read hp _ _ _ hi⟩
  · rw [deliverOutbound, run_bind_ok (setGlobals_run _ _), run_get_bind, hp.transportAt]
    dsimp only
    rw [addressOutbound_eq, run_bind_ok hcapture, run_bind_ok (setGlobals_run _ _),
      run_bind_ok hforward]
    rfl
  · rw [← hlog]

/-- The inbound branch comes to the start of a session exactly if the signalling message
can be handled. -/
theorem announce_returns_iff (hsend : F.send = sendRtpMessage env) (hin : IsInward host p) :
    (∃ u, (announce env F p.mem p.bytes.length).run (enterRtp w p) = .ok ((), u)) ↔
      passesThrough env host F w p := by
  have hrun : (announce env F p.mem p.bytes.length).run (enterRtp w p) = (do
      (if isSignalingBuffer (p.mem.shift 28) = 1 then do
          let _ ← processReceivedData env F (p.mem.shift 28) (p.bytes.length - 28)
       else pure ())
      captureHeader p.mem : Op Unit).run (arrived w p) := rfl
  rw [hrun]
  by_cases hs : isSignalingBuffer (p.mem.shift 28) = 1
  · have hiff := @handler_returns_iff env F (arrived w p) (p.mem.shift 28) (p.bytes.length - 28) hsend hs
    rw [if_pos hs]
    constructor
    · rintro ⟨u, hu⟩ - -
      rcases run_bind_eq_ok hu with ⟨_, v, hv, -⟩
      rcases run_bind_eq_ok hv with ⟨r, v', hv', -⟩
      exact hiff.mp ⟨r, v', hv'⟩
    · intro hpass
      rcases hiff.mpr (hpass hin hs) with ⟨r, v, hv⟩
      rcases captureHeader_run p.mem v with ⟨header, hdset, hcapture⟩
      rw [bind_assoc, run_bind_ok hv]
      exact ⟨_, hcapture⟩
  · rcases captureHeader_run p.mem (arrived w p) with ⟨header, hdset, hcapture⟩
    rw [if_neg hs]
    exact ⟨fun _ _ h => absurd h hs, fun _ => ⟨_, hcapture⟩⟩

/-- Nothing is said about the packet before it is forwarded. -/
theorem prepareInbound_spares (n : ℕ) {r : Mem × ℤ} {u v : Process} (buff : Mem) (bytesRead : ℤ)
    (source : BitVec 16)
    (h : (prepareInbound env (functors env host n) p.id buff bytesRead source).run u = .ok (r, v)) :
    Spares p.id u v := by
  have hR : Ignores (Spares p.id) := spares_ignores
  have hF := @functors_spare p.id env host n
  exact spares_of_steps (prepareInbound_within_of_free env hR.media hF _ _ _ _ u r v h)

theorem prepareOutbound_spares (n : ℕ) {r : Mem × ℤ} {u v : Process} (buff : Mem) (bytesRead : ℤ)
    (h : (prepareOutbound env (functors env host n) p.id buff bytesRead).run u = .ok (r, v)) :
    Spares p.id u v := by
  have hR : Ignores (Spares p.id) := spares_ignores
  exact spares_of_steps (prepareOutbound_within_of_free env hR.media (functors_spare n) _ _ _ u r v h)

theorem announce_of_inboundRtp {buff : Mem} {bytesRead offset : ℤ} {source : BitVec 16} {u v : Process}
    (h : (inboundRtp env F p.id buff bytesRead offset source).run u = .ok ((), v)) :
    ∃ u', (announce env F buff bytesRead).run u = .ok ((), u') := by
  rcases run_bind_eq_ok h with ⟨_, _, hprepare, -⟩
  rw [prepareInbound_eq] at hprepare
  rcases run_bind_eq_ok hprepare with ⟨_, u', hannounce, -⟩
  exact ⟨u', hannounce⟩

/-- The rest of the inbound branch, behind the signalling message. -/
theorem inboundRtp_passes (n : ℕ) {u : Process} (hm : IsCallMedia w p)
    (h : StaysOff env host (functors env host n) w p) (hin : IsInward host p)
    (hu : (announce env (functors env host n) p.mem p.bytes.length).run (enterRtp w p) = .ok ((), u)) :
    ∃ w', (inboundRtp env (functors env host n) p.id p.mem p.bytes.length (transportAt p.mem)
        (htons (p.mem.load16 (transportAt p.mem)))).run (enterRtp w p) = .ok ((), w') ∧
      PassedThrough host p w w' := by
  rcases h.inbound hin u hu with ⟨hoff, hstart⟩
  obtain ⟨v, hv⟩ := @startAndConvert_off env (functors env host n)
    (startsInbound · (htons (p.mem.load16 (transportAt p.mem))))
    (convertInbound env p.id p.mem p.bytes.length) (p.mem, p.bytes.length) u hoff hstart
  have hprepare : (prepareInbound env (functors env host n) p.id p.mem p.bytes.length
      (htons (p.mem.load16 (transportAt p.mem)))).run (enterRtp w p) =
        .ok ((p.mem, (p.bytes.length : ℤ)), v) := by
    rw [prepareInbound_eq, run_bind_ok hu, hv]
  obtain ⟨-, events, hlog, hevents⟩ := prepareInbound_spares n _ _ _ hprepare hm.number
  rw [inboundRtp, run_bind_ok hprepare]
  exact deliverInbound_passes hin hm.consistent hm.fits hlog hevents

theorem outboundRtp_passes (n : ℕ) (hm : IsCallMedia w p)
    (h : StaysOff env host (functors env host n) w p) (hout : ¬IsInward host p) :
    ∃ r w', (outboundRtp env (functors env host n) p.id p.mem p.bytes.length
        (transportAt p.mem)).run (enterRtp w p) = .ok (r, w') ∧ PassedThrough host p w w' := by
  let u : Process := { enterRtp w p with ext := { (enterRtp w p).ext with rtpSrc := saddr p.mem } }
  obtain ⟨v, hv⟩ := @startAndConvert_off env (functors env host n) startsOutbound
    (convertOutboundOp env p.id p.mem p.bytes.length) (p.mem, p.bytes.length) (leaving w p) h.off
    (h.outbound hout)
  have hprepare : (prepareOutbound env (functors env host n) p.id p.mem p.bytes.length).run u =
      .ok ((p.mem, (p.bytes.length : ℤ)), v) := by
    rw [prepareOutbound_eq, run_bind_ok (setGlobals_run _ _)]
    exact hv
  obtain ⟨-, events, hlog, hevents⟩ := prepareOutbound_spares n _ _ hprepare hm.number
  have hends : ¬(u.ext.outport = 0 ∨ u.ext.rtpDest = 0) := by
    rintro (hport | hdest)
    · exact hm.ends.2.1 hport
    · exact hm.ends.2.2 hdest
  rcases @deliverOutbound_passes env host w p v events hout hm.consistent hm.fits hlog hevents with
    ⟨w', hrun, hpassed⟩
  refine ⟨none, w', ?_, hpassed⟩
  rw [outboundRtp, run_bind_ok (setGlobals_run _ _), run_get_bind, if_neg hends, run_bind_ok hprepare]
  dsimp only
  rw [run_bind_ok hrun]
  rfl

/-- A media packet passes through while SRPP is off exactly if the signalling message it may
hold is handled to its end. -/
theorem processPacket_passes_iff (n : ℕ) (hm : IsCallMedia w p)
    (h : StaysOff env host (functors env host n) w p) :
    (∃ r w', (processPacket env host (functors env host n) p).run w = .ok (r, w') ∧
      PassedThrough host p w w') ↔ passesThrough env host (functors env host n) w p := by
  rw [processPacket_media hm.media]
  by_cases hin : IsInward host p
  · have hiff := announce_returns_iff (w := w) (functors_send env host n) hin
    rw [if_pos hin]
    constructor
    · rintro ⟨r, w', hrun, -⟩
      rcases run_bind_eq_ok hrun with ⟨_, _, hbranch, -⟩
      exact hiff.mp (announce_of_inboundRtp hbranch)
    · intro hpass
      rcases hiff.mpr hpass with ⟨u, hu⟩
      rcases inboundRtp_passes n hm h hin hu with ⟨w', hrun, hpassed⟩
      exact ⟨none, w', by rw [run_bind_ok hrun]; rfl, hpassed⟩
  · rw [if_neg hin]
    exact ⟨fun _ hinward => absurd hinward hin, fun _ => outboundRtp_passes n hm h hin⟩

end Passing

/-- A UDP packet from 10.0.0.2 to 10.0.0.1 on port 5000 that says how long it is. -/
def framedPacket (payload : List Byte) : Packet where
  id := 1
  bytes := [0x45, 0] ++ le16 (htonsInt (28 + payload.length)) ++
    [0, 0, 0, 0, 64, 17, 0, 0, 10, 0, 0, 2, 10, 0, 0, 1] ++ le16 (htons 5000) ++ le16 (htons 5000) ++
    le16 (htonsInt (8 + payload.length)) ++ [0, 0] ++ payload
  rest _ := 0

/-- A call on port 5000 without SRPP, of which one packet has come in. -/
def plainCall (rtpHdset : ℕ) : Process :=
  let w := atMain (Env.constant 0)
  { w with ext := { w.ext with
    rtpPorts := [5000], inport := 5000, outport := 5000, rtpDest := 0x0200000a, recvCount := 1
    rtpHdset := rtpHdset } }

theorem isCallMedia_framed {rtpHdset : ℕ} {payload : List Byte}
    (h : IsMedia (plainCall rtpHdset).ext (framedPacket payload) ∧ IsConsistent (framedPacket payload) ∧
      (framedPacket payload).bytes.length ≤ 1500) :
    IsCallMedia (plainCall rtpHdset) (framedPacket payload) where
  media := h.1
  consistent := h.2.1
  fits := h.2.2
  ends := ⟨by simp [plainCall], by simp [plainCall], by simp [plainCall]⟩
  number q hq := by cases hq

/-- A HELLO is answered and passes through. -/
theorem hello_passes :
    IsCallMedia (plainCall 2) (framedPacket (signalBytes 12 [])) ∧ ∃ r w',
      (processPacket (Env.constant 0) localHost (functors (Env.constant 0) localHost 1)
        (framedPacket (signalBytes 12 []))).run (plainCall 2) = .ok (r, w') ∧
      PassedThrough localHost (framedPacket (signalBytes 12 [])) (plainCall 2) w' := by
  have hm : IsCallMedia (plainCall 2) (framedPacket (signalBytes 12 [])) :=
    isCallMedia_framed (by decide +kernel)
  have hhandle : canHandle (plainCall 2) ((framedPacket (signalBytes 12 [])).mem.shift 28)
      ((framedPacket (signalBytes 12 [])).bytes.length - 28) := by
    decide +kernel
  have hread : endsIn (do
      let _ ← processReceivedData (Env.constant 0)
        (withoutReads (functors (Env.constant 0) localHost 1))
        ((framedPacket (signalBytes 12 [])).mem.shift 28)
        ((framedPacket (signalBytes 12 [])).bytes.length - 28)
      (functors (Env.constant 0) localHost 1).receive)
      (arrived (plainCall 2) (framedPacket (signalBytes 12 []))) (fun _ => true) = true := by
    decide +kernel
  have hannounce : endsIn (announce (Env.constant 0) (functors (Env.constant 0) localHost 1)
      (framedPacket (signalBytes 12 [])).mem (framedPacket (signalBytes 12 [])).bytes.length)
      (enterRtp (plainCall 2) (framedPacket (signalBytes 12 [])))
      (fun u => decide (u.ext.applySrpp = false ∧ startsInbound u.ext 5000 = false)) = true := by
    decide +kernel
  refine ⟨hm, (processPacket_passes_iff 1 hm ?_).mpr fun _ _ => ⟨hhandle, fun _ r u hr => ?_⟩⟩
  swap
  · rcases endsIn_run hread with ⟨_, u', hrun, -⟩
    rw [run_bind_ok hr] at hrun
    exact ⟨u', hrun⟩
  exact
    { off := rfl
      inbound := by
        intro _ u hu
        rcases endsIn_run hannounce with ⟨_, u', hrun, hcheck⟩
        rw [hu] at hrun
        cases hrun
        have hport : htons ((framedPacket (signalBytes 12 [])).mem.load16
            (transportAt (framedPacket (signalBytes 12 [])).mem)) = 5000 := by decide +kernel
        rw [hport]
        have hu := of_decide_eq_true hcheck
        exact ⟨hu.1, fun h => absurd h (by rw [hu.2]; decide)⟩
      outbound := fun h => absurd (by decide +kernel) h }

/-- A HELLO of 82 bytes. -/
def shortHello : Packet :=
  framedPacket ((signalBytes 12 []).take 70 ++ [0, 0, 0, 0, 0, 0, 0, 0, 0, 12, 0, 0])

theorem shortHello_stops (F : Functors Globals) (w : Process) :
    (processReceivedData (Env.constant 0) F (shortHello.mem.shift 28)
      (shortHello.bytes.length - 28)).run w = .error .lengthError :=
  processReceivedData_stops _ F _ (by decide +kernel) (by decide +kernel)

theorem announce_shortHello (F : Functors Globals) (w : Process) :
    (announce (Env.constant 0) F shortHello.mem shortHello.bytes.length).run w =
      .error .lengthError := by
  have hs : isSignalingBuffer (shortHello.mem.shift 28) = 1 := by decide +kernel
  have hsignal : (receiveSignal (Env.constant 0) F shortHello.mem shortHello.bytes.length).run w =
      .error .lengthError := by
    rw [receiveSignal, run_bind_ok (setGlobals_run _ _), if_pos hs]
    exact run_bind_error (shortHello_stops F _)
  exact run_bind_error hsignal

/-- It is not forwarded: decoding it ends the process. -/
theorem shortHello_not_forwarded :
    IsCallMedia (plainCall 2) shortHello ∧
    StaysOff (Env.constant 0) localHost (functors (Env.constant 0) localHost 1) (plainCall 2)
      shortHello ∧
    ¬∃ r w', (processPacket (Env.constant 0) localHost (functors (Env.constant 0) localHost 1)
      shortHello).run (plainCall 2) = .ok (r, w') ∧
        PassedThrough localHost shortHello (plainCall 2) w' := by
  have hm : IsCallMedia (plainCall 2) shortHello := isCallMedia_framed (by decide +kernel)
  have hin : IsInward localHost shortHello := by decide +kernel
  refine ⟨hm, ?_, ?_⟩
  · exact
      { off := rfl
        inbound := fun _ u hu => by
          rw [announce_shortHello] at hu
          cases hu
        outbound := fun h => absurd hin h }
  · rintro ⟨r, w', hrun, -⟩
    rw [processPacket_media hm.media, if_pos hin] at hrun
    rcases run_bind_eq_ok hrun with ⟨_, _, hbranch, -⟩
    rcases announce_of_inboundRtp hbranch with ⟨u, hu⟩
    rw [announce_shortHello] at hu
    cases hu

end Sqrkal.Discovery
