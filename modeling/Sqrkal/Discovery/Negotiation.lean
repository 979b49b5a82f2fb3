import Sqrkal.Discovery.Consistency
import Sqrkal.Discovery.Turns

/-! # The process as a party

Every function of the process keeps to the turns of its library, down to any depth of packets
that are read while an earlier one is being processed. What reaches the library of a packet is
what the packet says. The headers that the process changes before are not read for that.
-/

namespace Sqrkal.Discovery
open Foundation Mem Message Library Handshake Relation

variable {heard : Signal → Prop}

theorem turns_globals : Permits (TakesTurns heard) Globals.queue := fun _ _ h => turns_quiet h rfl

theorem turns_rules : Permits (TakesTurns heard) Globals.beyondRules :=
  turns_globals.weaken Globals.queue fun _ => rfl

theorem setGlobals_turns {f : Globals → Globals} (hf : ∀ g, (f g).queue = g.queue) :
    Within (TakesTurns heard) (setGlobals f) :=
  turns_globals.within hf

theorem turns_event (w : Process) {e : Event} (h : isRtpMessage e = false) :
    TakesTurns heard w { w with log := e :: w.log } := by
  have hparty : party { w with log := e :: w.log } = party w := by
    simp [party, saidIn_cons h]
  exact turns_quiet rfl hparty

theorem observe_turns {e : Event} (h : isRtpMessage e = false) :
    Within (TakesTurns heard) (observe e : Op Unit) :=
  .modify fun w => turns_event w h

theorem event_turns {packet : ℕ} (w : Process) (e : Event) (h : IsOf packet e) :
    TakesTurns heard w { w with log := e :: w.log } := by
  apply turns_event
  cases e <;> trivial

/-! ## Sending -/

section Sending
variable (env : Env) {g : Globals} {d : List Byte}

theorem received_second (rest junk : Mem) (hd : 2 ≤ d.length) :
    received rest (datagramBytes g junk d) 1 = rewriteHeader g d (wrapMessage g junk d) 29 := by
  have hcopy := write_read_agreesOn rest
    (formChecksums (rewriteHeader g d (wrapMessage g junk d))) (d.length + 28)
  rw [← formChecksums_apply (rewriteHeader g d (wrapMessage g junk d))]
  exact hcopy 29 (by decide) (by push_cast; omega)

/-- A signalling message keeps its payload type under the header of the media. -/
theorem rewriteHeader_second (junk : Mem) (hd : 2 ≤ d.length) (h : d.getD 1 0 = 0x7c) :
    rewriteHeader g d (wrapMessage g junk d) 29 = 0x7c := by
  have hone : 1 < d.length := by omega
  have hbyte : wrapMessage g junk d 29 = 0x7c := by
    rw [← h, show d.getD 1 0 = d[1] by simp [hone]]
    exact write_apply_inside _ 28 d 1 hone
  unfold rewriteHeader
  dsimp only
  split_ifs
  · exact write_singleton _ _ _
  · exact hbyte

/-- What the library says arrives as it was said, whatever header it is sent under. -/
theorem whatSays_sent {s : Signal} (h : IsSpoken d s) (addr : BitVec 32) (port : BitVec 16)
    (junk : Mem) : whatSays ⟨addr, port, datagramBytes g junk d⟩ = some s := by
  have hlen := h.length
  have hbytes : (datagramBytes g junk d).length = d.length + 28 := read_length _ _ _
  have hsize : ((datagramBytes g junk d).length : ℤ) - 28 = d.length := by omega
  have hsecond := (received_second (g := g) (fun _ => 0) junk (by omega)).trans
    (rewriteHeader_second junk (by omega) h.second)
  have hag := (received_agreesOn g junk d (fun _ => 0) (fun _ => 0)).mono
    (show (40 : ℤ) ≤ 68 by decide) le_rfl
  have hlong : 112 ≤ (datagramBytes g junk d).length := by omega
  rw [whatSays, if_pos hlong, hsize]
  exact h.readSignal hsecond hag

theorem sendRtpMessage_utters {s : Signal} (h : IsSpoken d s) {w w' : Process} {status : ℤ}
    (hrun : (sendRtpMessage env d).run w = .ok (status, w')) :
    w'.ext.queue = w.ext.queue ∧ party w' = { party w with said := some s :: (party w).said } := by
  have hlen := h.length
  obtain ⟨addr, port, hlog, hlib, hext⟩ :=
    sendRtpMessage_ok env (List.ne_nil_of_length_pos (by omega)) hrun
  refine ⟨by rw [hext]; rfl, ?_⟩
  rw [party, hlib, hlog, saidIn_message, whatSays_sent h]
  rfl

variable {packet : ℕ} (buff : Mem) (n : ℤ)

theorem forward_turns : Within (TakesTurns heard) (forward env packet buff n) := by
  refine .bind (observe_turns rfl) fun _ => .ite ?_ ?_
  · refine .bind .get fun _ => .bind (setGlobals_turns fun _ => rfl) fun _ =>
      .bind (observe_turns rfl) fun _ => .bind (sendRawMessage_within event_turns _ _) fun _ => ?_
    exact .bind nextTick_turns fun _ => .bind (sendRawMessage_within event_turns _ _) fun _ =>
      .pure _
  · exact .bind (sendRawMessage_within event_turns _ _) fun _ => .pure _

theorem forwardSip_turns (inward : Bool) :
    Within (TakesTurns heard) (forwardSip env packet buff n inward) := by
  have hturn : ∀ f : Globals → Globals, (∀ g, (f g).queue = g.queue) →
      Within (TakesTurns heard) (if inward then setGlobals f else pure () : Op Unit) := fun f hf =>
    .ite (setGlobals_turns hf) (.pure _)
  refine .bind (hturn _ fun _ => rfl) fun _ => .bind .get fun u =>
    .bind (forward_turns env _ _) fun _ => .bind (hturn _ ?_) fun _ => .pure _
  exact fun _ => rfl

theorem captureHeader_turns : Within (TakesTurns heard) (captureHeader buff) := by
  refine setGlobals_turns fun g => ?_
  split_ifs <;> rfl

theorem captureSipHeader_turns : Within (TakesTurns heard) (captureSipHeader buff) := by
  refine setGlobals_turns fun g => ?_
  split_ifs <;> rfl

theorem deliverInbound_turns (offset : ℤ) :
    Within (TakesTurns heard) (deliverInbound env packet buff n offset) :=
  .bind .get fun _ => .bind (setGlobals_turns fun _ => rfl) fun _ =>
    .bind (forward_turns env _ _) fun _ => .pure _

theorem deliverOutbound_turns (offset : ℤ) :
    Within (TakesTurns heard) (deliverOutbound env packet buff n offset) :=
  .bind (setGlobals_turns fun _ => rfl) fun _ => .bind .get fun _ =>
    .bind (captureHeader_turns _) fun _ => .bind (setGlobals_turns fun _ => rfl) fun _ =>
      .bind (forward_turns env _ _) fun _ => .pure _

end Sending

/-! ## SIP -/

section Sip
variable (env : Env) (host : Host) (s : List Byte) (inward : Bool)

theorem parseAudio_turns : Within (TakesTurns heard) (parseAudio env host s inward) := by
  refine .ite (.bind (fieldAfter_within host _ _ _ _) fun r => .bind ?_ fun _ => .pure _)
    (.bind nextTick_turns fun _ => .pure _)
  cases inward with
  | false => exact setGlobals_turns fun _ => rfl
  | true => exact setGlobals_turns fun _ => rfl

theorem parseConnection_turns (l : ℕ) :
    Within (TakesTurns heard) (parseConnection host s inward l) := by
  refine .bind (fieldAfter_within host _ _ _ _) fun r => setGlobals_turns fun g => ?_
  split_ifs <;> rfl

theorem backToServer_turns : Within (TakesTurns heard) backToServer := setGlobals_turns fun _ => rfl

theorem rememberServer_turns : Within (TakesTurns heard) rememberServer :=
  setGlobals_turns fun _ => rfl

theorem setServer_turns (name : List Byte) : Within (TakesTurns heard) (setServer host name) :=
  setServer_within host (turns_globals.weaken Globals.queue fun _ => rfl) name

theorem noteAnswer_turns : Within (TakesTurns heard) (noteAnswer s inward) := by
  refine .ite (setGlobals_turns fun g => ?_) (setGlobals_turns fun g => ?_)
  · split_ifs <;> rfl
  · split_ifs <;> rfl

theorem startMedia_turns : Within (TakesTurns heard) (startMedia host s inward) := by
  refine .bind .get fun _ => .bind (.ite (parseConnection_turns host s inward _) (.pure _)) fun _ =>
    .bind (setGlobals_turns fun _ => rfl) fun _ => .bind .get fun _ => .ite ?_ (.pure _)
  exact .bind (addAllRtpRules_within turns_rules _ _) fun _ => setGlobals_turns fun _ => rfl

theorem startIfReady_turns (goOn : Bool) :
    Within (TakesTurns heard) (startIfReady host s inward goOn) :=
  .ite (.pure _) (.bind .get fun _ => .ite (.pure _) (.bind (.ite (startMedia_turns host s inward)
    (.pure _)) fun _ => .bind backToServer_turns fun _ => .pure _))

theorem finishInvite_turns : Within (TakesTurns heard) (finishInvite host s inward) := by
  refine .bind (.ite (parseConnection_turns host s inward _) (.pure _)) fun _ => .ite (.pure _) ?_
  exact .bind (setGlobals_turns fun _ => rfl) fun _ => .bind (substrOp_within _ _ _) fun _ =>
    .bind (setServer_turns host _) fun _ => .bind rememberServer_turns fun _ => .pure _

theorem parseRegister_turns : Within (TakesTurns heard) (parseRegister host s inward) :=
  .bind (substrOp_within _ _ _) fun _ => .bind (setServer_turns host _) fun _ =>
    .bind (.ite rememberServer_turns (.pure _)) fun _ => .pure _

theorem parseSubscribe_turns : Within (TakesTurns heard) (parseSubscribe host s inward) :=
  .bind (substrOp_within _ _ _) fun _ => .bind (setServer_turns host _) fun _ =>
    .bind (.ite rememberServer_turns (.pure _)) fun _ => .pure _

theorem finishBye_turns (applied complete : Bool) :
    Within (TakesTurns heard) (finishBye applied complete) :=
  .bind (addAllRtpRules_within turns_rules _ _) fun _ =>
    .bind (setGlobals_turns fun _ => rfl) fun _ => .bind backToServer_turns fun _ =>
      .bind (observe_turns rfl) fun _ => .pure _

variable {F : Functors Globals} (hF : Transmits heard F)
include hF

theorem stopDiscovering_turns : Within (TakesTurns heard) (stopDiscovering env F) := by
  refine .bind .get fun _ => .bind (.ite ?_ (.pure _)) fun _ =>
    .bind (setGlobals_turns fun _ => rfl) fun _ =>
      .bind (addAllRules_within turns_rules _ _) fun _ => .pure _
  exact .bind (stopSession_turns env hF) fun _ => .pure _

theorem parseProfile_turns (m : ℕ) : Within (TakesTurns heard) (parseProfile env F s inward m) := by
  refine .ite ?_ (.ite ?_ (.ite (.ite ?_ ?_) (.pure _)))
  · exact .bind (setGlobals_turns fun _ => rfl) fun _ => .pure _
  · exact .bind (setGlobals_turns fun _ => rfl) fun _ => .pure _
  · exact .bind (stopDiscovering_turns env hF) fun _ => .pure _
  · exact .bind (setGlobals_turns fun _ => rfl) fun _ => .pure _

theorem parseBye_turns : Within (TakesTurns heard) (parseBye env F) := by
  refine .bind .get fun _ => .ite (.pure _) (.bind .get fun _ =>
    .bind (setGlobals_turns fun _ => rfl) fun _ => .bind .get fun _ => ?_)
  exact .bind (.ite (.bind (stopSession_turns env hF) fun _ => .pure _) (.pure _)) fun _ =>
    finishBye_turns _ _

theorem parseOk_turns : Within (TakesTurns heard) (parseOk env host F s inward) := by
  rw [parseOk_eq]
  refine .bind (noteAnswer_turns s inward) fun _ => .bind (.ite ?_ (.pure _)) fun goOn =>
    startIfReady_turns host s inward goOn
  exact .bind (parseAudio_turns env host s inward) fun m => parseProfile_turns env s inward hF m

theorem parseInvite_turns : Within (TakesTurns heard) (parseInvite env host F s inward) := by
  rw [parseInvite_eq]
  refine .bind (setGlobals_turns fun _ => rfl) fun _ =>
    .bind (parseAudio_turns env host s inward) fun m => ?_
  exact .bind (parseProfile_turns env s inward hF m) fun _ => .ite (.pure _)
    (finishInvite_turns host s inward)

theorem parseSip_turns : Within (TakesTurns heard) (parseSip env host F s inward) := by
  have hback : Within (TakesTurns heard) (do backToServer; return 0 : Op ℤ) :=
    .bind backToServer_turns fun _ => .pure _
  exact .ite (parseBye_turns env hF) (.ite hback (.ite (parseOk_turns env host s inward hF)
    (.ite (parseInvite_turns env host s inward hF) (.ite (parseRegister_turns host s inward)
      (.ite (parseSubscribe_turns host s inward) hback)))))

theorem handleSip_turns (packet : ℕ) (buff : Mem) (n : ℤ) :
    Within (TakesTurns heard) (handleSip env host F packet buff n inward) := by
  rw [handleSip_eq]
  refine .ite (.throw _) (.bind ?_ fun r => .bind (captureSipHeader_turns r.1) fun _ => .pure _)
  refine .bind (parseSip_turns env host _ inward hF) fun _ => .bind .get fun _ => .ite ?_ (.pure _)
  exact .bind (forwardSip_turns env buff n inward) fun _ => .pure _

end Sip

/-! ## The buffer behind the SIP branch -/

section Buffer
variable {buff b : Mem} {n : ℤ}

/-- The buffer says nothing that another one does not say. -/
def SaysNoMore (b buff : Mem) (n : ℤ) : Prop :=
  ∀ s, readSignal (b.shift 28) (n - 28) = some s → readSignal (buff.shift 28) (n - 28) = some s

/-- The second byte of the message is kept, or the payload type is not that of signalling. -/
theorem saysNoMore_of_agreesOn (h : AgreesOn b buff 96 (max 108 n))
    (h29 : b 29 = buff 29 ∨ b 29 = 0xc4) : SaysNoMore b buff n := by
  intro s hs
  rcases h29 with hsame | hport
  · have hag : AgreesOn b buff (68 + 28) (max 80 (n - 28) + 28) := h.mono (by decide) (by omega)
    rwa [readSignal_congr hsame hag.shift] at hs
  · have hpt : (SRPPHeader.load (b.shift 28) 0).pt ≠ 124 := by
      have htype : (SRPPHeader.load (b.shift 28) 0).pt = (b 29).extractLsb' 0 7 := rfl
      rw [htype, hport]
      decide
    rw [readSignal, if_neg] at hs
    · cases hs
    · exact signalingClass_ne_one.mpr (Or.inr hpt)

theorem formChecksums_second (m : Mem) : AgreesOn (formChecksums m) m 29 30 := by
  intro a ha hb
  obtain rfl : a = 29 := by omega
  exact formChecksums_apply m

theorem firstFragment_agreesOn (fragId : ℤ) (m : Mem) {lo hi : ℤ}
    (h : 68 ≤ lo ∨ lo = 29 ∧ hi = 30) : AgreesOn (firstFragment fragId m) m lo hi := by
  have hlast : ∀ m : Mem, AgreesOn (formChecksums m) m lo hi := by
    intro m
    rcases h with h | ⟨rfl, rfl⟩
    · exact (formChecksums_agreesOn m).mono h le_rfl
    · exact formChecksums_second m
  exact (hlast _).trans ((store16_agreesOn _ _ _ (by omega)).trans
    ((store16_agreesOn _ _ _ (by omega)).trans (store16_agreesOn _ _ _ (by omega))))

/-- A port is written over the second byte of the message if the IP header has two words of
options. -/
theorem addressSip_second (port : BitVec 16) (addr : BitVec 32) (ttl : ℤ) (m : Mem) :
    addressSip port addr ttl m 29 = m 29 ∨ addressSip port addr ttl m 29 = 0xc4 := by
  have haddress : AgreesOn (addressSip port addr ttl m)
      ((m.store16 (transportAt m) (htonsInt 5060)).store16 (transportAt m + 2) port) 29 30 :=
    (write_agreesOn (.inr (by simp))).trans (store32_agreesOn _ _ _ (by omega))
  rw [haddress 29 le_rfl (by decide)]
  have hat : transportAt m = 4 * ihl m := rfl
  have hdestination : AgreesOn
      ((m.store16 (transportAt m) (htonsInt 5060)).store16 (transportAt m + 2) port)
      (m.store16 (transportAt m) (htonsInt 5060)) 29 30 := store16_agreesOn _ _ _ (by omega)
  rw [hdestination 29 le_rfl (by decide)]
  by_cases h : ihl m = 7
  · right
    rw [hat, h]
    exact write_apply_inside m 28 (le16 (htonsInt 5060)) 1 (by decide)
  · left
    have hsource : AgreesOn (m.store16 (transportAt m) (htonsInt 5060)) m 29 30 :=
      store16_agreesOn _ _ _ (by omega)
    exact hsource 29 le_rfl (by decide)

theorem addressSip_agreesOn (port : BitVec 16) (addr : BitVec 32) (ttl : ℤ) (m : Mem) {hi : ℤ} :
    AgreesOn (addressSip port addr ttl m) m 68 hi := by
  have hihl : ihl m < 16 := (m 0 |>.extractLsb' 0 4).isLt
  have hat : transportAt m = 4 * ihl m := rfl
  exact (write_agreesOn (.inr (by simp))).trans ((store32_agreesOn _ _ _ (by omega)).trans
    ((store16_agreesOn _ _ _ (by omega)).trans (store16_agreesOn _ _ _ (by omega))))

variable {env : Env} {host : Host} {F : Functors Globals} {packet : ℕ} {w w' : Process}
  {inward : Bool}

theorem forward_agreesOn (h : (forward env packet buff n).run w = .ok (b, w')) {lo hi : ℤ}
    (hlo : 68 ≤ lo ∨ lo = 29 ∧ hi = 30) : AgreesOn b buff lo hi := by
  rcases forward_buff h with rfl | rfl
  · rcases hlo with hlo | ⟨rfl, rfl⟩
    · exact (formChecksums_agreesOn buff).mono hlo le_rfl
    · exact formChecksums_second buff
  · exact firstFragment_agreesOn _ _ hlo

theorem forwardSip_saysNoMore (h : (forwardSip env packet buff n inward).run w = .ok (b, w')) :
    SaysNoMore b buff n := by
  rcases run_bind_eq_ok h with ⟨_, u, -, h⟩
  rw [run_get_bind] at h
  rcases run_bind_eq_ok h with ⟨b', v, hforward, h⟩
  rcases run_bind_eq_ok h with ⟨_, v', -, h⟩
  cases h
  apply saysNoMore_of_agreesOn
  · exact (forward_agreesOn hforward (.inl (by decide))).trans
      ((addressSip_agreesOn _ _ _ buff).mono (by decide) le_rfl)
  · have hkept := forward_agreesOn hforward (.inr ⟨rfl, rfl⟩) 29 le_rfl (by decide)
    rw [hkept]
    exact addressSip_second _ _ _ buff

theorem handleSip_saysNoMore {r : Mem × ℤ}
    (h : (handleSip env host F packet buff n inward).run w = .ok (r, w')) :
    SaysNoMore r.1 buff n := by
  rw [handleSip_eq] at h
  split_ifs at h
  · cases h
  rcases run_bind_eq_ok h with ⟨r', u, hparse, h⟩
  rcases run_bind_eq_ok h with ⟨_, u', -, h⟩
  cases h
  rcases run_bind_eq_ok hparse with ⟨status, v, -, hparse⟩
  rw [run_get_bind] at hparse
  split_ifs at hparse
  · rcases run_bind_eq_ok hparse with ⟨b, v', hforward, hparse⟩
    cases hparse
    exact forwardSip_saysNoMore hforward
  · cases hparse
    exact fun _ hs => hs

end Buffer

/-! ## Media -/

section Packets
variable (env : Env) (host : Host)

theorem pad_session {l l' : Lib} {msg msg' : SRPPMessage}
    (h : (pad env msg).run l = .ok (msg', l')) : l'.flags = l.flags ∧ l'.session = l.session := by
  rcases run_bind_eq_ok h with ⟨q, l₂, hpsp, h⟩
  rcases run_bind_eq_ok hpsp with ⟨extra, l₁, hextra, hpsp⟩
  rcases run_bind_eq_ok hpsp with ⟨bytes, l₃, hdata, hpsp⟩
  cases hpsp
  rcases extraSize_run env l msg.encryptedPart.originalPayload.length with ⟨_, _, _, hrun, -⟩
  cases hextra.symm.trans hrun
  rcases generateDummyData_run env _ _ with ⟨i, -, hrun⟩
  rcases run_lift_eq_ok (hrun ▸ hdata) with ⟨-, rfl⟩
  rcases run_bind_eq_ok h with ⟨coin, l₄, hcoin, h⟩
  cases hcoin
  rcases run_bind_eq_ok h with ⟨_, l₅, hadd, h⟩
  cases h
  split_ifs at hadd
  · obtain ⟨i, payload, t, hi, hpayload, hrun⟩ := addToDummyCache_run env _ _
    cases hadd.symm.trans hrun
    exact ⟨rfl, rfl⟩
  · cases hadd
    exact ⟨rfl, rfl⟩

/-- Converting a packet draws and pads, but leaves the session as it is. -/
theorem rtpToSrppOp_session {l l' : Lib} {rtp : RTPHeader} {data : List Byte} {msg : SRPPMessage}
    (h : (rtpToSrppOp env rtp data).run l = .ok (msg, l')) :
    l'.flags = l.flags ∧ l'.session = l.session := by
  rw [rtpToSrppOp, run_bind_ok (nextFresh_run l env)] at h
  rcases run_bind_eq_ok h with ⟨m, _, hfields, h⟩
  rcases run_lift_eq_ok hfields with ⟨-, rfl⟩
  rcases run_bind_eq_ok h with ⟨q, l₂, hpad, h⟩
  cases h
  have hsession := pad_session env hpad
  exact hsession

theorem decodeInbound_turns (buff : Mem) (n : ℤ) :
    Within (TakesTurns heard) (decodeInbound env buff n) :=
  .bind nextTick_turns fun _ => .bind .get fun _ => .bind (.ite (.lift _) (.lift _)) fun _ =>
    .bind (setGlobals_turns fun _ => rfl) fun _ => .pure _

theorem encodeOutbound_turns (buff : Mem) (n : ℤ) :
    Within (TakesTurns heard) (encodeOutbound env buff n) := by
  refine .bind (setGlobals_turns fun _ => rfl) fun _ =>
    .bind (setGlobals_turns fun g => ?_) fun _ => .bind .get fun _ => .bind (.lift _) fun data =>
      .bind (onLib_turns fun l a l' h => ?_) fun msg =>
        .bind (setGlobals_turns fun _ => rfl) fun _ => .bind (onLib_turns fun l a l' h => ?_) fun _ =>
          .bind .get fun _ => .lift _
  · split_ifs <;> rfl
  · rcases rtpToSrppOp_session env h with ⟨hflags, hsession⟩
    exact ⟨hflags, by rw [hsession]⟩
  · cases h
    exact ⟨rfl, rfl⟩

variable {F : Functors Globals} (hF : Transmits heard F)
include hF

theorem tryStart_turns : Within (TakesTurns heard) (tryStart env F) := by
  have hquiet : ∀ f : Lib → Lib, (∀ l, (f l).flags = l.flags ∧ (f l).session = l.session) →
      Within (TakesTurns heard) (setLib f : Op Unit) := fun f hf =>
    setLib_turns (fun l => (hf l).1) fun l => by rw [(hf l).2]
  have hstart : Within (TakesTurns heard) (startSrpp env F) := by
    refine .bind (startSession_turns env hF) fun _ => .bind .get fun _ => .ite ?_ ?_
    · exact .bind (hquiet _ fun _ => ⟨rfl, rfl⟩) fun _ => .bind (stopSession_turns env hF) fun _ =>
        .bind (observe_turns rfl) fun _ => .pure _
    · exact .bind (hquiet _ fun _ => ⟨rfl, rfl⟩) fun _ => .bind .get fun _ =>
        .bind (hquiet _ fun _ => ⟨rfl, rfl⟩) fun _ => .bind (observe_turns rfl) fun _ => .pure _
  exact .bind hstart fun _ => .ite (setGlobals_turns fun _ => rfl) (.pure _)

theorem startAndConvert_turns (starts : Globals → Bool) {convert : Op (Mem × ℤ)}
    (hconvert : Within (TakesTurns heard) convert) (r : Mem × ℤ) :
    Within (TakesTurns heard) (startAndConvert env F starts convert r) := by
  refine .bind (.bind .get fun _ => .ite (tryStart_turns env hF) (.pure _)) fun _ => ?_
  exact .bind .get fun _ => .ite hconvert (.pure _)

theorem prepareInbound_turns {packet : ℕ} {buff : Mem} {n : ℤ} (source : BitVec 16)
    (hsaid : ∀ s, readSignal (buff.shift 28) (n - 28) = some s → heard s) :
    Within (TakesTurns heard) (prepareInbound env F packet buff n source) := by
  rw [prepareInbound_eq]
  refine .bind (.bind (.bind (setGlobals_turns fun _ => rfl) fun _ => .ite ?_ (.pure _)) fun _ =>
    captureHeader_turns buff) fun _ => startAndConvert_turns env hF _ ?_ _
  · exact .bind (processReceivedData_turns env hF hsaid) fun _ => .pure _
  · exact .bind (observe_turns rfl) fun _ => decodeInbound_turns env buff n

theorem prepareOutbound_turns (packet : ℕ) (buff : Mem) (n : ℤ) :
    Within (TakesTurns heard) (prepareOutbound env F packet buff n) := by
  rw [prepareOutbound_eq]
  refine .bind (setGlobals_turns fun _ => rfl) fun _ => startAndConvert_turns env hF _ ?_ _
  exact .bind (observe_turns rfl) fun _ => encodeOutbound_turns env buff n

theorem inboundRtp_turns {packet : ℕ} {buff : Mem} {n : ℤ} (offset : ℤ) (source : BitVec 16)
    (hsaid : ∀ s, readSignal (buff.shift 28) (n - 28) = some s → heard s) :
    Within (TakesTurns heard) (inboundRtp env F packet buff n offset source) :=
  .bind (prepareInbound_turns env hF source hsaid) fun _ => deliverInbound_turns env _ _ _

theorem outboundRtp_turns (packet : ℕ) (buff : Mem) (n offset : ℤ) :
    Within (TakesTurns heard) (outboundRtp env F packet buff n offset) :=
  .bind (setGlobals_turns fun _ => rfl) fun _ => .bind .get fun _ => .ite (.pure _)
    (.bind (prepareOutbound_turns env hF _ _ _) fun _ =>
      .bind (deliverOutbound_turns env _ _ _) fun _ => .pure _)

theorem processPacket_turns {p : Packet} (hp : Hears heard p) :
    Within (TakesTurns heard) (processPacket env host F p) := by
  intro u
  by_cases hs : IsSip u.ext.sipPorts p
  · refine .of_run_eq (processPacket_sip hs) (.single (turns_quiet rfl rfl)) ?_
    refine (handleSip_turns env host _ hF p.id p.mem p.bytes.length _).bind fun r v hr => ?_
    -- the packet may be taken for media as well, with its headers changed
    have hsaid : ∀ s, readSignal (r.1.shift 28) (p.bytes.length - 28) = some s → heard s :=
      fun s hread => hp s (handleSip_saysNoMore hr s hread)
    refine Within.bind .get (fun _ => .ite (.ite ?_ (outboundRtp_turns env hF _ _ _ _)) (.pure _)) v
    exact .bind (inboundRtp_turns env hF _ _ hsaid) fun _ => .pure _
  by_cases hm : IsMedia u.ext p
  · refine .of_run_eq (processPacket_media hm) (.single (turns_quiet rfl rfl)) ?_
    refine Within.ite (.bind (inboundRtp_turns env hF _ _ hp) fun _ => .pure _) ?_ _
    exact outboundRtp_turns env hF _ _ _ _
  · rcases dropPacket_run p u with ⟨_, _, _, _, -, hdrop⟩
    exact .of_run ((processPacket_other hs hm).trans hdrop) (turns_quiet rfl rfl)

end Packets

/-! ## Reading packets -/

section Reading
variable {env : Env} {host : Host} {w w' : Process}

/-- A step about which nothing is asked, because the queue holds something else. -/
theorem turns_of_not_listening {α : Type} (h : ¬Listening heard w) (x : Op α) :
    WithinAt (TakesTurns heard) w x := by
  intro a w' _
  exact .single fun hl => absurd hl h

theorem dequeue_turns (w : Process) : TakesTurns heard w (dequeued w) := by
  intro hl
  refine ⟨?_, .refl⟩
  intro p hp
  exact hl p (List.mem_of_mem_tail hp)

theorem hears_next {p : Packet} (hl : Listening heard w) (hp : nextPacket w.ext = some p) :
    Hears heard p := by
  apply hl p
  unfold nextPacket at hp
  split at hp
  · next q rest hq =>
    cases hp
    simp [hq]
  · cases hp

theorem receiveRtpMessage_turns {F : Functors Globals} (hF : Transmits heard F) :
    Within (TakesTurns heard) (receiveRtpMessage env host F) := by
  intro w
  by_cases hl : Listening heard w
  · have hconstruct : TakesTurns heard w { w with lib := w.lib.constructed } := turns_quiet rfl rfl
    have hread : ReflTransGen (TakesTurns heard) w (afterRead w) :=
      .tail (.single hconstruct) (dequeue_turns _)
    intro _ w' h
    rcases receiveWith_cases h with ⟨-, rfl⟩ | ⟨p, r, hnext, -, hrun⟩ | ⟨p, r, hnext, -, hrun⟩
    · exact hread
    · exact hread.trans (processReceivedData_turns env hF (hears_next hl hnext) _ r w' hrun)
    · exact hread.trans (processPacket_turns env host hF (hears_next hl hnext) _ r w' hrun)
  · exact turns_of_not_listening hl _

theorem functors_transmit (n : ℕ) : Transmits heard (functors env host n) := by
  induction n with
  | zero => exact ⟨fun hs _ _ _ h => sendRtpMessage_utters env hs h, unusedMessage_turns env⟩
  | succ n ih =>
    exact ⟨fun hs _ _ _ h => sendRtpMessage_utters env hs h, receiveRtpMessage_turns ih⟩

theorem discoverRound_turns (n : ℕ) : Within (TakesTurns heard) (discoverRound env host n) := by
  intro w
  by_cases hl : Listening heard w
  · have hhold : TakesTurns heard w (holding w) := turns_quiet rfl rfl
    refine roundWith_within (.tail (.single hhold) (dequeue_turns (holding w))) fun p hnext => ?_
    exact processPacket_turns env host (functors_transmit n) (hears_next hl hnext) _
  · exact turns_of_not_listening hl _

/-- A packet that the main loop finds in its buffer again. -/
theorem refill_turns {q : Packet} (hq : Hears heard q) (w : Process) :
    TakesTurns heard w (refilled w q) := by
  refine fun hl => ⟨fun p hp => ?_, .refl⟩
  rcases List.mem_cons.mp hp with hnew | hold
  · cases hnew
    exact hq
  · exact hl p hold

/-- A step that shows nothing, as long as there is no burst padding. -/
def Quiet (u v : Process) : Prop :=
  u.lib.padding.isBurstPadding = false →
    v.ext.queue = u.ext.queue ∧ party v = party u ∧ v.lib.padding.isBurstPadding = false

theorem timerFired_quiet (F : Functors Globals) : Within Quiet (timerFired env F) := by
  have hreset : ∀ x : Lib.Op Unit, (∀ l, ∃ t, x.run l = .ok ((), { l with timer := t })) →
      Within Quiet (onLib x : Op Unit) := by
    intro x hx u _ v h
    rcases hx u.lib with ⟨t, ht⟩
    cases h.symm.trans (onLib_run ht)
    exact .single fun hb => ⟨rfl, rfl, hb⟩
  have hcbp : Within Quiet (defaultCbpPadAlgo env F) := by
    intro u r v h
    refine .single fun hb => ?_
    rcases defaultCbpPadAlgo_cases h with ⟨-, rfl⟩ | ⟨hburst, -⟩
    · exact ⟨rfl, rfl, hb⟩
    · simp [hb] at hburst
  have hebp : Within Quiet (defaultEbpPadAlgo env F) := by
    intro u r v h
    refine .single fun hb => ?_
    rcases defaultEbpPadAlgo_cases h with ⟨-, rfl⟩ | ⟨hburst, -⟩
    · exact ⟨rfl, rfl, hb⟩
    · simp [hb] at hburst
  refine .bind (.modify fun u hb => ⟨rfl, rfl, hb⟩) fun _ => .bind .get fun _ =>
    .bind (.ite ?_ (.pure _)) fun _ => .bind .get fun _ => .ite ?_ (.pure _)
  · exact .bind hcbp fun _ => hreset _ fun l => ⟨_, rfl⟩
  · exact .bind hebp fun _ => hreset _ fun l => ⟨_, rfl⟩

/-- Without burst padding the timer sends nothing. -/
theorem timerFired_turns {F : Functors Globals} (hb : w.lib.padding.isBurstPadding = false)
    (h : (timerFired env F).run w = .ok ((), w')) : TakesTurns heard w w' := by
  have hquiet : w'.ext.queue = w.ext.queue ∧ party w' = party w ∧
      w'.lib.padding.isBurstPadding = false := by
    apply WithinAt.invariant (I := fun t : Process => t.ext.queue = w.ext.queue ∧
      party t = party w ∧ t.lib.padding.isBurstPadding = false)
      (timerFired_quiet F w) _ ⟨rfl, rfl, hb⟩ h
    intro t t' hstep ht
    rcases hstep ht.2.2 with ⟨hq, hp, hb'⟩
    exact ⟨hq.trans ht.1, hp.trans ht.2.1, hb'⟩
  exact turns_quiet hquiet.1 hquiet.2.1

end Reading

/-! ## The start -/

section Start
variable {env : Env} {option : ℤ} {w : Process}

/-- A change of the library that leaves the flags alone. -/
def SameFlags (l l' : Lib) : Prop := l'.flags = l.flags

theorem rawRand_sameFlags : Within SameFlags (rawRand env) := by
  intro l a l' h
  cases h
  exact .single rfl

theorem rand_sameFlags (min max : ℤ) : Within SameFlags (rand env min max) :=
  .bind rawRand_sameFlags fun _ => .pure _

theorem randomBytes_sameFlags (n : ℕ) : Within SameFlags (randomBytes env n) := by
  induction n with
  | zero => exact .pure _
  | succ n ih =>
    exact .bind (rand_sameFlags _ _) fun _ => .bind (rand_sameFlags _ _) fun _ =>
      .bind ih fun _ => .pure _

theorem initCache_sameFlags (n : ℕ) : Within SameFlags (initCache env n) := by
  have hfresh : Within SameFlags (nextFresh env) := by
    intro l a l' h
    cases h
    exact .single rfl
  induction n with
  | zero => exact .pure _
  | succ n ih =>
    refine .bind ih fun _ => .bind ?_ fun msg => .modify fun l => rfl
    exact .bind hfresh fun _ => .bind .get fun _ => .bind (rand_sameFlags _ _) fun _ =>
      .bind (randomBytes_sameFlags _) fun _ => .pure _

/-- The process starts without a flag set, with an empty queue and nothing said. -/
theorem Begins.atStart (h : Begins env option w) : AtStart (party w) ∧ Listening heard w := by
  have hlib : ∀ {α : Type} {x : Lib.Op α}, Within SameFlags x →
      Within (fun u v : Process => SameFlags u.lib v.lib) (onLib x : Op α) := fun hx =>
    hx.zoom (fun _ => rfl) fun _ _ _ hstep => hstep
  have hstart : Within (fun u v : Process => SameFlags u.lib v.lib)
      (startDiscovering env option) := by
    refine .bind (hlib (.modify fun _ => rfl)) fun _ => .bind (hlib rawRand_sameFlags) fun _ =>
      .bind (hlib rawRand_sameFlags) fun _ => .bind (.modify fun _ => rfl) fun _ =>
        .bind (addAllRules_within (fun _ _ _ => rfl) _ _) fun _ => ?_
    exact .bind (hlib (initCache_sameFlags 99)) fun _ => .modify fun _ => rfl
  have hflags : w.lib.flags = {} :=
    WithinAt.invariant (I := fun t : Process => t.lib.flags = {}) (hstart _)
      (fun t t' hstep ht => hstep.trans ht) rfl h
  rcases h.globals with ⟨hlog, ttl, hext⟩
  refine ⟨⟨hflags, ?_⟩, ?_⟩
  · simp [party, hlog, saidIn, messagesIn]
  · intro p hp
    rw [hext] at hp
    cases hp

end Start

end Sqrkal.Discovery
