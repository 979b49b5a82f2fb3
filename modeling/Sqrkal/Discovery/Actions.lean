import Sqrkal.Discovery.Dummies
import Sqrkal.Discovery.MediaRules
import Sqrkal.Discovery.PassThrough

/-! # The process, seen from the network

What the process shows outside are the datagrams it sends and the rules of the packet
filter. Every function of it, down to any depth of nested packets, moves by the actions
listed here, so what is proved of the actions holds for whole runs.
-/

namespace Sqrkal.Discovery
open Foundation Mem Message Library Relation

/-- The globals that datagrams and rules are made from. -/
structure Face where
  srppTtl : ℤ
  isDiscovering : Bool
  inport : ℤ
  udpAdded : Bool
  rtpAdded : Bool
  firewall : List Rule
  rtpHeader : Mem
  rtpHdset : ℕ
  ssrcValue : BitVec 32
  fragId : ℤ

def Globals.face (g : Globals) : Face where
  srppTtl := g.srppTtl
  isDiscovering := g.isDiscovering
  inport := g.inport
  udpAdded := g.udpAdded
  rtpAdded := g.rtpAdded
  firewall := g.firewall
  rtpHeader := g.rtpHeader
  rtpHdset := g.rtpHdset
  ssrcValue := g.ssrcValue
  fragId := g.fragId

/-- Events that are not about sending. -/
def IsNote : Event → Prop
  | .handedOver _ | .fragmented _ | .rawMessage _ _ | .rtpMessage _ => False
  | _ => True

/-- The time to live in a buffer is the one the rules exempt. -/
def IsMarked (ttl : ℤ) (m : Mem) : Prop := m 8 = BitVec.ofInt 8 ttl

/-- The state in which a packet has been sent in one piece. -/
def sentWhole (w : Process) (packet : ℕ) (buff : Mem) (n : ℤ) : Process :=
  { w with log := rawEvents packet (formChecksums buff) w.ext.outAddr n ++ .handedOver packet :: w.log }

/-- The state in which a packet has been sent in two fragments, the second one built over
fresh memory. -/
def sentSplit (w : Process) (packet : ℕ) (buff junk : Mem) (bytesLeft : ℕ) : Process :=
  { w with
    ext := { w.ext with fragId := w.ext.fragId + 1 }
    log := rawEvents packet (secondFragment junk (firstFragment w.ext.fragId buff) bytesLeft)
        w.ext.outAddr (bytesLeft + 20) ++
      rawEvents packet (firstFragment w.ext.fragId buff) w.ext.outAddr ipMtu ++
      .fragmented packet :: .handedOver packet :: w.log }

/-- The state in which a message of the library has been sent. -/
def sentMessage (w : Process) (a : SockAddr) (junk : Mem) (d : List Byte) : Process :=
  { w with
    ext := { advanceHeader w.lib.lastSequenceNo w.ext with outAddr := a }
    log := .rtpMessage ⟨a.addr, a.port, datagramBytes w.ext junk d⟩ :: w.log }

inductive Action (w : Process) : Process → Prop
  | lib (l : Lib) (h : LibStep w.lib l) : Action w { w with lib := l }
  | complete : Action w w.complete
  | hidden (g : Globals) (h : g.face = w.ext.face) : Action w { w with ext := g }
  | note (e : Event) (h : IsNote e) : Action w { w with log := e :: w.log }
  | port (inport : ℤ) : Action w { w with ext := { w.ext with inport := inport } }
  | stop : Action w { w with ext := { w.ext with
      isDiscovering := false
      firewall := w.ext.firewall.diff (sipRules w.ext.srppTtl), udpAdded := false } }
  | addMedia (h : w.ext.rtpAdded = false) : Action w { w with ext := { w.ext with
      firewall := w.ext.firewall ++ mediaRules w.ext.inport w.ext.srppTtl, rtpAdded := true } }
  | removeMedia : Action w { w with ext := { w.ext with
      firewall := w.ext.firewall.diff (mediaRules w.ext.inport w.ext.srppTtl), rtpAdded := false } }
  | sipHeader (buff : Mem) (h : w.ext.rtpHdset = 0) : Action w { w with ext := { w.ext with
      rtpHeader := w.ext.rtpHeader.write 0 (buff.read 0 28), rtpHdset := 1 } }
  | mediaHeader (buff : Mem) (h : w.ext.rtpHdset = 0 ∨ w.ext.rtpHdset = 1) :
      Action w { w with ext := { w.ext with
        rtpHeader := w.ext.rtpHeader.write 0 (buff.read 0 40), rtpHdset := 2 } }
  | source (ssrc : BitVec 32) (h : w.ext.ssrcValue = 0) :
      Action w { w with ext := { w.ext with ssrcValue := ssrc } }
  | whole (packet : ℕ) (buff : Mem) (n : ℤ) (hm : IsMarked w.ext.srppTtl buff) (hn : 28 ≤ n) :
      Action w (sentWhole w packet buff n)
  | split (packet : ℕ) (buff junk : Mem) (bytesLeft : ℕ) (hm : IsMarked w.ext.srppTtl buff) :
      Action w (sentSplit w packet buff junk bytesLeft)
  | message (a : SockAddr) (junk : Mem) (d : List Byte) (hd : d ≠ [])
      (h : w.ext.rtpHdset ≠ 0) : Action w (sentMessage w a junk d)

theorem action_allows : Allows Action := ⟨fun _ l h => .lib l h, fun _ => .complete⟩

theorem hidden_within {f : Globals → Globals} (h : ∀ g, (f g).face = g.face) :
    Within Action (setGlobals f) :=
  .modify fun w => .hidden _ (h w.ext)

theorem action_flow : Permits Action Globals.beyondFlow := by
  intro w g h
  have hface := congrArg Globals.face h
  exact .hidden g hface

theorem note_within {e : Event} (h : IsNote e) : Within Action (observe e : Op Unit) :=
  .modify fun _ => .note e h

/-! ## Sending -/

section Sending
variable (env : Env) {w : Process} {packet : ℕ} {buff : Mem} {n : ℤ}

theorem sendRtpMessage_acts (d : List Byte) : Within Action (sendRtpMessage env d) := by
  intro w status w' h
  by_cases hd : d = []
  · rw [sendRtpMessage, if_pos hd] at h
    cases h
    exact .refl
  · have hset : w.ext.rtpHdset ≠ 0 := by
      intro hset
      rw [sendRtpMessage_exits hd hset] at h
      cases h
    obtain ⟨addr, port, hlog, hlib, hext⟩ := sendRtpMessage_ok env hd h
    have hstate : w' =
        sentMessage { w with lib := w.lib.ticked } ⟨addr, port⟩ (env.junk w.lib.tick) d := by
      cases w'
      cases hlog
      cases hlib
      cases hext
      rfl
    have htick : Action w { w with lib := w.lib.ticked } := .lib _ (.quiet rfl rfl)
    rw [hstate]
    exact .tail (.single htick) (.message _ _ d hd hset)

theorem forward_acts (hm : IsMarked w.ext.srppTtl buff) (hn : 28 ≤ n) :
    WithinAt Action w (forward env packet buff n) := by
  intro r w' h
  by_cases hfits : n ≤ ipMtu
  · have heq := h.symm.trans (forward_fits env packet buff w hfits)
    cases heq
    exact .single (.whole packet buff n hm hn)
  · have hrun : (forward env packet buff n).run w =
        (sendFragmentedMessage env packet buff n).run { w with log := .handedOver packet :: w.log } := by
      rw [forward, run_bind_ok (observe_run _ _), if_pos (not_le.mp hfits)]
    have heq := h.symm.trans (hrun.trans (sendFragmentedMessage_run env packet buff _ n))
    cases heq
    have htick : Action w { w with lib := w.lib.ticked } := .lib _ (.quiet rfl rfl)
    exact .tail (.single htick) (.split packet buff (env.junk w.lib.tick) (n - ipMtu).toNat hm)

theorem setTtl_isMarked (m : Mem) (ttl : ℤ) : IsMarked ttl (setTtl m ttl) := write_singleton m 8 _

theorem forwardSip_acts (hn : 28 ≤ n) (inward : Bool) :
    Within Action (forwardSip env packet buff n inward) := by
  have hturn : ∀ f : Globals → Globals, (∀ g, (f g).face = g.face) →
      Within Action (if inward then setGlobals f else pure () : Op Unit) := fun f hf =>
    .ite (hidden_within hf) (.pure _)
  refine .bind (hturn _ fun _ => rfl) fun _ => .get_bind fun u => ?_
  refine (forward_acts env (setTtl_isMarked _ _) hn).bind fun _ v _ => ?_
  refine Within.bind (hturn _ ?_) (fun _ => .pure _) v
  exact fun _ => rfl

theorem captureHeader_acts (buff : Mem) : Within Action (captureHeader buff) := by
  intro u
  by_cases h : u.ext.rtpHdset = 0 ∨ u.ext.rtpHdset = 1
  · refine .of_run (setGlobals_run _ u) ?_
    rw [if_pos h]
    exact .mediaHeader buff h
  · refine .of_run (setGlobals_run _ u) ?_
    rw [if_neg h]
    exact .hidden _ rfl

theorem deliverInbound_acts (hn : 28 ≤ n) (offset : ℤ) :
    Within Action (deliverInbound env packet buff n offset) := by
  refine .get_bind fun u => .modify_bind (.single (.hidden _ rfl)) ?_
  exact (forward_acts env (setTtl_isMarked _ _) hn).bind fun _ v _ => Within.pure _ v

theorem deliverOutbound_acts (hn : 28 ≤ n) (offset : ℤ) :
    Within Action (deliverOutbound env packet buff n offset) := by
  refine .bind (hidden_within fun _ => rfl) fun _ => .get_bind fun u => ?_
  rcases captureHeader_run (addressOutbound u.ext buff n offset) u with ⟨header, hdset, hcapture⟩
  refine (captureHeader_acts _ u).bind fun _ v hv => .modify_bind (.single (.hidden _ rfl)) ?_
  have hsame := hv.symm.trans hcapture
  cases hsame
  exact (forward_acts env (setTtl_isMarked _ _) hn).bind fun _ v _ => Within.pure _ v

end Sending

/-! ## The packet filter -/

theorem removeSipRules_run (u : Process) : (addAllRules false true).run u = .ok (0, { u with
    ext := { u.ext with
      firewall := u.ext.firewall.diff (sipRules u.ext.srppTtl), udpAdded := false } }) := by
  rw [addAllRules, run_get_bind]
  dsimp only
  rw [if_neg (by simp)]
  simp only [sipRules, List.diff_cons, List.diff_nil]
  exact removeRules_run _ _ _ u

/-- The end of `stop_discovering`. -/
theorem endDiscovering_acts : Within Action (do
    setGlobals fun g => { g with isDiscovering := false }
    let _ ← addAllRules false true : Op Unit) := by
  intro u
  refine .of_run (t := _) (a := ()) ?_ .stop
  rw [run_bind_ok (setGlobals_run _ u), run_bind_ok (removeSipRules_run _)]
  rfl

theorem removeRtpRules_acts : Within Action (addAllRtpRules false true) := by
  intro w
  rw [addAllRtpRules]
  refine .get_bind ?_
  dsimp only
  rw [if_neg (by simp)]
  have hstep : Action w _ := .removeMedia
  simp only [mediaRules, List.diff_cons, List.diff_nil] at hstep
  exact .of_run (removeRules_run _ _ _ w) hstep

theorem addRtpRules_acts : Within Action (addAllRtpRules true true) := by
  intro w
  rw [addAllRtpRules]
  refine .get_bind ?_
  dsimp only
  split_ifs with h
  · exact Within.pure _ w
  · have hadded : w.ext.rtpAdded = false := by simpa using h
    have hstep : Action w _ := .addMedia hadded
    rw [mediaRules, List.append_cons] at hstep
    exact .of_run rfl hstep

/-! ## SIP -/

section Sip
variable (env : Env) (host : Host)

theorem parseAudio_acts (s : List Byte) (inward : Bool) :
    Within Action (parseAudio env host s inward) := by
  refine .ite (.bind (fieldAfter_within host _ _ _ _) fun r => .bind ?_ fun _ => .pure _)
    (.bind (action_allows.onLib nextTick_within) fun _ => .pure _)
  cases inward with
  | false => exact .modify fun u => .port _
  | true => exact hidden_within fun _ => rfl

theorem parseConnection_acts (s : List Byte) (inward : Bool) (l : ℕ) :
    Within Action (parseConnection host s inward l) := by
  refine .bind (fieldAfter_within host _ _ _ _) fun r => hidden_within fun g => ?_
  split_ifs <;> rfl

theorem backToServer_acts : Within Action backToServer := hidden_within fun _ => rfl

theorem rememberServer_acts : Within Action rememberServer := hidden_within fun _ => rfl

theorem setServer_acts (name : List Byte) : Within Action (setServer host name) := by
  unfold setServer
  exact hidden_within fun _ => rfl

theorem noteAnswer_acts (s : List Byte) (inward : Bool) : Within Action (noteAnswer s inward) := by
  refine .ite (hidden_within fun g => ?_) (hidden_within fun g => ?_)
  · split_ifs <;> rfl
  · split_ifs <;> rfl

theorem startMedia_acts (s : List Byte) (inward : Bool) : Within Action (startMedia host s inward) := by
  refine .bind .get fun _ => .bind (.ite (parseConnection_acts host s inward _) (.pure _)) fun _ =>
    .bind (hidden_within fun _ => rfl) fun _ => .bind .get fun _ => .ite ?_ (.pure _)
  exact .bind addRtpRules_acts fun _ => hidden_within fun _ => rfl

theorem startIfReady_acts (s : List Byte) (inward goOn : Bool) :
    Within Action (startIfReady host s inward goOn) :=
  .ite (.pure _) (.bind .get fun _ => .ite (.pure _) (.bind (.ite (startMedia_acts host s inward)
    (.pure _)) fun _ => .bind backToServer_acts fun _ => .pure _))

theorem finishInvite_acts (s : List Byte) (inward : Bool) :
    Within Action (finishInvite host s inward) := by
  refine .bind (.ite (parseConnection_acts host s inward _) (.pure _)) fun _ => .ite (.pure _) ?_
  exact .bind (hidden_within fun _ => rfl) fun _ => .bind (substrOp_within _ _ _) fun _ =>
    .bind (setServer_acts host _) fun _ => .bind rememberServer_acts fun _ => .pure _

theorem parseRegister_acts (s : List Byte) (inward : Bool) :
    Within Action (parseRegister host s inward) :=
  .bind (substrOp_within _ _ _) fun _ => .bind (setServer_acts host _) fun _ =>
    .bind (.ite rememberServer_acts (.pure _)) fun _ => .pure _

theorem parseSubscribe_acts (s : List Byte) (inward : Bool) :
    Within Action (parseSubscribe host s inward) :=
  .bind (substrOp_within _ _ _) fun _ => .bind (setServer_acts host _) fun _ =>
    .bind (.ite rememberServer_acts (.pure _)) fun _ => .pure _

theorem captureSipHeader_acts (buff : Mem) : Within Action (captureSipHeader buff) := by
  intro u
  by_cases h : u.ext.rtpHdset = 0
  · refine .of_run (setGlobals_run _ u) ?_
    rw [if_pos h]
    exact .sipHeader buff h
  · refine .of_run (setGlobals_run _ u) ?_
    rw [if_neg h]
    exact .hidden _ rfl

theorem finishBye_acts (applied complete : Bool) : Within Action (finishBye applied complete) :=
  .bind removeRtpRules_acts fun _ => .bind (hidden_within fun _ => rfl) fun _ =>
    .bind backToServer_acts fun _ => .bind (note_within trivial) fun _ => .pure _

variable {F : Functors Globals} (hF : Holds Action F)
include hF

theorem stopDiscovering_acts : Within Action (stopDiscovering env F) := by
  refine .bind .get fun _ => .bind (.ite ?_ (.pure _)) fun _ => endDiscovering_acts
  exact .bind (stopSession_within env action_allows hF) fun _ => .pure _

theorem parseProfile_acts (s : List Byte) (inward : Bool) (m : ℕ) :
    Within Action (parseProfile env F s inward m) := by
  refine .ite ?_ (.ite ?_ (.ite (.ite ?_ ?_) (.pure _)))
  · exact .bind (hidden_within fun _ => rfl) fun _ => .pure _
  · exact .bind (hidden_within fun _ => rfl) fun _ => .pure _
  · exact .bind (stopDiscovering_acts env hF) fun _ => .pure _
  · exact .bind (hidden_within fun _ => rfl) fun _ => .pure _

theorem parseBye_acts : Within Action (parseBye env F) := by
  refine .bind .get fun _ => .ite (.pure _) (.bind .get fun _ => .bind (hidden_within fun _ => rfl)
    fun _ => .bind .get fun _ => ?_)
  exact .bind (.ite (.bind (stopSession_within env action_allows hF) fun _ => .pure _) (.pure _))
    fun _ => finishBye_acts _ _

theorem parseOk_acts (s : List Byte) (inward : Bool) :
    Within Action (parseOk env host F s inward) := by
  rw [parseOk_eq]
  refine .bind (noteAnswer_acts s inward) fun _ => .bind (.ite ?_ (.pure _)) fun goOn =>
    startIfReady_acts host s inward goOn
  exact .bind (parseAudio_acts env host s inward) fun m => parseProfile_acts env hF s inward m

theorem parseInvite_acts (s : List Byte) (inward : Bool) :
    Within Action (parseInvite env host F s inward) := by
  rw [parseInvite_eq]
  refine .bind (hidden_within fun _ => rfl) fun _ => .bind (parseAudio_acts env host s inward) fun m => ?_
  exact .bind (parseProfile_acts env hF s inward m) fun _ => .ite (.pure _)
    (finishInvite_acts host s inward)

theorem parseSip_acts (s : List Byte) (inward : Bool) :
    Within Action (parseSip env host F s inward) := by
  have hback : Within Action (do backToServer; return 0 : Op ℤ) :=
    .bind backToServer_acts fun _ => .pure _
  exact .ite (parseBye_acts env hF) (.ite hback (.ite (parseOk_acts env host hF s inward)
    (.ite (parseInvite_acts env host hF s inward) (.ite (parseRegister_acts host s inward)
      (.ite (parseSubscribe_acts host s inward) hback)))))

theorem handleSip_acts (packet : ℕ) (buff : Mem) {n : ℤ} (hn : 28 ≤ n) (inward : Bool) :
    Within Action (handleSip env host F packet buff n inward) := by
  rw [handleSip_eq]
  refine .ite (.throw _) (.bind ?_ fun r => .bind (captureSipHeader_acts r.1) fun _ => .pure _)
  refine .bind (parseSip_acts env host hF _ inward) fun _ => .bind .get fun _ => .ite ?_ (.pure _)
  exact .bind (forwardSip_acts env hn inward) fun _ => .pure _

end Sip

/-! ## Media -/

section Packets
variable (env : Env) (host : Host)

theorem decodeInbound_acts (buff : Mem) (n : ℤ) : Within Action (decodeInbound env buff n) :=
  .bind (action_allows.onLib nextTick_within) fun _ => .bind .get fun _ =>
    .bind (.ite (.lift _) (.lift _)) fun _ => .bind (hidden_within fun _ => rfl) fun _ => .pure _

theorem noteSource_acts (ssrc : BitVec 32) : Within Action (setGlobals fun g =>
    if g.ssrcValue = 0 then { g with ssrcValue := ssrc } else g) := by
  intro u
  refine .of_run (setGlobals_run _ u) ?_
  split_ifs with h
  · exact .source ssrc h
  · exact .hidden _ rfl

theorem encodeOutbound_acts (buff : Mem) (n : ℤ) : Within Action (encodeOutbound env buff n) := by
  refine .bind (hidden_within fun _ => rfl) fun _ => .bind (noteSource_acts _) fun _ =>
    .bind .get fun _ => .bind (.lift _) fun data =>
      .bind (action_allows.onLib (rtpToSrppOp_within env _ _)) fun msg => ?_
  exact .bind (hidden_within fun _ => rfl) fun _ => .bind (action_allows.onLib (scratch_within env))
    fun _ => .bind .get fun _ => .lift _

variable {F : Functors Globals} (hF : Holds Action F)
include hF

theorem tryStart_acts : Within Action (tryStart env F) := by
  have hquiet : ∀ f : Lib → Lib, (∀ l, LibStep l (f l)) → Within Action (setLib f : Op Unit) :=
    fun f hf => action_allows.setLib hf
  have hstart : Within Action (startSrpp env F) := by
    refine .bind (startSession_within env action_allows hF) fun _ => .bind .get fun _ => .ite ?_ ?_
    · exact .bind (hquiet _ fun _ => .quiet rfl rfl) fun _ =>
        .bind (stopSession_within env action_allows hF) fun _ =>
          .bind (note_within trivial) fun _ => .pure _
    · exact .bind (hquiet _ fun _ => .quiet rfl rfl) fun _ => .bind .get fun _ =>
        .bind (hquiet _ fun _ => .quiet rfl rfl) fun _ => .bind (note_within trivial) fun _ => .pure _
  exact .bind hstart fun _ => .ite (hidden_within fun _ => rfl) (.pure _)

theorem startAndConvert_acts (starts : Globals → Bool) {convert : Op (Mem × ℤ)}
    (hconvert : Within Action convert) (r : Mem × ℤ) :
    Within Action (startAndConvert env F starts convert r) := by
  refine .bind (.bind .get fun _ => .ite (tryStart_acts env hF) (.pure _)) fun _ => ?_
  exact .bind .get fun _ => .ite hconvert (.pure _)

theorem prepareInbound_acts (packet : ℕ) (buff : Mem) (n : ℤ) (source : BitVec 16) :
    Within Action (prepareInbound env F packet buff n source) := by
  rw [prepareInbound_eq]
  refine .bind (.bind (.bind (hidden_within fun _ => rfl) fun _ => .ite ?_ (.pure _)) fun _ =>
    captureHeader_acts buff) fun _ => startAndConvert_acts env hF _ ?_ _
  · exact .bind (processReceivedData_within env action_allows hF _ _) fun _ => .pure _
  · exact .bind (note_within trivial) fun _ => decodeInbound_acts env buff n

theorem prepareOutbound_acts (packet : ℕ) (buff : Mem) (n : ℤ) :
    Within Action (prepareOutbound env F packet buff n) := by
  rw [prepareOutbound_eq]
  refine .bind (hidden_within fun _ => rfl) fun _ => startAndConvert_acts env hF _ ?_ _
  exact .bind (note_within trivial) fun _ => encodeOutbound_acts env buff n

theorem inboundRtp_acts (packet : ℕ) (buff : Mem) {n : ℤ} (hn : 28 ≤ n) (offset : ℤ)
    (source : BitVec 16) : Within Action (inboundRtp env F packet buff n offset source) :=
  fun u => (prepareInbound_acts env hF packet buff n source u).bind fun _ v hr =>
    deliverInbound_acts env (prepareInbound_headers hn hr).2 offset v

theorem outboundRtp_acts (packet : ℕ) (buff : Mem) {n : ℤ} (hn : 28 ≤ n) (offset : ℤ) :
    Within Action (outboundRtp env F packet buff n offset) := by
  refine .bind (hidden_within fun _ => rfl) fun _ => .bind .get fun _ => .ite (.pure _) fun u => ?_
  refine (prepareOutbound_acts env hF packet buff n u).bind fun r v hr => ?_
  exact (deliverOutbound_acts env (prepareOutbound_headers hn hr).2 offset v).bind fun _ v' _ =>
    Within.pure _ v'

theorem processPacket_acts (p : Packet) : Within Action (processPacket env host F p) := by
  intro u
  by_cases hs : IsSip u.ext.sipPorts p
  · have hn : (28 : ℤ) ≤ p.bytes.length := Int.ofNat_le.mpr hs.length
    refine .of_run_eq (processPacket_sip hs) (.single (.hidden _ rfl)) ?_
    refine Within.bind (handleSip_acts env host hF p.id p.mem hn _) (fun r => .bind .get fun _ => ?_) _
    refine .ite (.ite ?_ (outboundRtp_acts env hF p.id r.1 hn r.2)) (.pure _)
    exact .bind (inboundRtp_acts env hF p.id r.1 hn r.2 _) fun _ => .pure _
  by_cases hm : IsMedia u.ext p
  · have hn : (28 : ℤ) ≤ p.bytes.length := Int.ofNat_le.mpr hm.length
    refine .of_run_eq (processPacket_media hm) (.single (.hidden _ rfl)) ?_
    refine Within.ite (.bind (inboundRtp_acts env hF p.id p.mem hn _ _) fun _ => .pure _) ?_ _
    exact outboundRtp_acts env hF p.id p.mem hn _
  · rcases dropPacket_run p u with ⟨_, _, _, _, -, hdrop⟩
    exact .of_run ((processPacket_other hs hm).trans hdrop) (.hidden _ rfl)

theorem receiveRtpMessage_acts : Within Action (receiveRtpMessage env host F) := fun _ =>
  receiveRtpMessage_within action_allows action_flow (processReceivedData_within env action_allows hF)
    fun p u _ _ _ => processPacket_acts env host hF p u

end Packets

/-! ## Runs -/

section Runs
variable {env : Env} {host : Host} {w w' : Process}

theorem functors_act (n : ℕ) : Holds Action (functors env host n) := by
  induction n with
  | zero => exact ⟨sendRtpMessage_acts env, action_allows.onLib (unusedMessage_within env)⟩
  | succ n ih => exact ⟨sendRtpMessage_acts env, receiveRtpMessage_acts env host ih⟩

theorem discoverRound_acts (n : ℕ) : Within Action (discoverRound env host n) := fun u =>
  roundWith_within (.single (.hidden _ rfl)) fun p _ =>
    processPacket_acts env host (functors_act n) p (dequeued (holding u))

theorem Step.actions (h : Step env host w w') : ReflTransGen Action w w' := by
  cases h with
  | arrive p => exact .single (.hidden _ rfl)
  | round n _ h => exact discoverRound_acts n w () w' h
  | again n q _ _ h =>
    have hrefill : Action w (refilled w q) := .hidden _ rfl
    exact .head hrefill (discoverRound_acts n (refilled w q) () w' h)
  | tick n h => exact timerFired_within env action_allows (functors_act n).send w () w' h

/-- A run moves by actions. -/
theorem run_actions (h : ReflTransGen (Step env host) w w') : ReflTransGen Action w w' := by
  induction h with
  | refl => exact .refl
  | tail _ hstep ih => exact ih.trans hstep.actions

/-- What every action keeps, any number of them keeps. -/
theorem actions_keep {I : Process → Prop} (hI : ∀ t t', Action t t' → I t → I t')
    (h : ReflTransGen Action w w') (hw : I w) : I w' := by
  induction h with
  | refl => exact hw
  | tail _ hstep ih => exact hI _ _ hstep ih

/-- What every action keeps, a run keeps. -/
theorem run_keeps {I : Process → Prop} (hI : ∀ t t', Action t t' → I t → I t')
    (h : ReflTransGen (Step env host) w w') (hw : I w) : I w' :=
  actions_keep hI (run_actions h) hw

/-- An action of the process, or a tick of the timer between two of them, be it in the middle of
a packet. No tick interrupts an action, such as the sending of a message. -/
inductive Interleaved (env : Env) (host : Host) (w : Process) : Process → Prop
  | action {w' : Process} (h : Action w w') : Interleaved env host w w'
  | tick (n : ℕ) {w' : Process} (h : (timerFired env (functors env host n)).run w = .ok ((), w')) :
      Interleaved env host w w'

theorem Interleaved.actions (h : Interleaved env host w w') : ReflTransGen Action w w' := by
  cases h with
  | action h => exact .single h
  | tick n h => exact timerFired_within env action_allows (functors_act n).send w () w' h

/-- A run is one whose ticks happen to come between the packets. -/
theorem run_interleaved (h : ReflTransGen (Step env host) w w') :
    ReflTransGen (Interleaved env host) w w' :=
  (run_actions h).lift id fun _ _ => .action

/-- What every action keeps, a run with ticks between its actions keeps. -/
theorem interleaved_keeps {I : Process → Prop} (hI : ∀ t t', Action t t' → I t → I t')
    (h : ReflTransGen (Interleaved env host) w w') (hw : I w) : I w' := by
  induction h with
  | refl => exact hw
  | tail _ hstep ih => exact actions_keep hI hstep.actions ih

end Runs

end Sqrkal.Discovery
