import Sqrkal.Discovery.Media
import Sqrkal.Library.Effects

/-! # What the functions of the process leave alone

Most assignments of the process concern none of the globals that a property of a whole
run speaks about. Here each function is shown to keep to a relation on states, given
that the relation lets the other globals change and that the few functions which do write
to the core keep to it.
-/

namespace Sqrkal.Discovery
open Foundation Message Library

/-- The globals that properties of runs speak about. -/
structure Core where
  applySrpp : Bool
  port : BitVec 16
  isRtp : Bool
  sipPorts : List ℤ
  queue : List (Option Packet)
  inport : ℤ
  srppTtl : ℤ
  udpAdded : Bool
  rtpAdded : Bool
  firewall : List Rule

def Globals.core (g : Globals) : Core where
  applySrpp := g.applySrpp
  port := g.outAddr.port
  isRtp := g.isRtp
  sipPorts := g.sipPorts
  queue := g.queue
  inport := g.inport
  srppTtl := g.srppTtl
  udpAdded := g.udpAdded
  rtpAdded := g.rtpAdded
  firewall := g.firewall

/-- The flags that decide about the start of a media session. -/
structure CallFlags where
  sentInvite : Bool := false
  saw200ok : Bool := false
  sawAck : Bool := false
  sawInviteAlready : Bool := false
  isSessionOn : Bool := false
deriving DecidableEq

def Globals.call (g : Globals) : CallFlags where
  sentInvite := g.sentInvite
  saw200ok := g.saw200ok
  sawAck := g.sawAck
  sawInviteAlready := g.sawInviteAlready
  isSessionOn := g.isSessionOn

/-- The lists that the process adds to, and the file it writes two of them to. -/
structure Ledger where
  sipPorts : List ℤ
  rtpPorts : List ℤ
  inputPacketSizes : List ℤ
  outputPacketSizes : List ℤ
  sizesTxt : List (ℤ × Option ℤ)

def Globals.ledger (g : Globals) : Ledger where
  sipPorts := g.sipPorts
  rtpPorts := g.rtpPorts
  inputPacketSizes := g.inputPacketSizes
  outputPacketSizes := g.outputPacketSizes
  sizesTxt := g.sizesTxt

/-- Everything but the packet filter and the port it is about. -/
def Globals.beyondFilter (g : Globals) : Globals :=
  { g with firewall := [], udpAdded := false, tcpAdded := false, rtpAdded := false, inport := 0 }

/-- Everything but the packet filter. -/
def Globals.beyondRules (g : Globals) : Globals :=
  { g with firewall := [], udpAdded := false, tcpAdded := false, rtpAdded := false }

/-- Everything but the destination. -/
def Globals.beyondAddress (g : Globals) : Globals := { g with outAddr := {} }

/-- Everything but the destination and the kind of the packet. -/
def Globals.beyondKind (g : Globals) : Globals :=
  { g with outAddr := {}, isUdp := false, isSip := false, isRtp := false }

/-- Everything but the destination, the packets that wait, and the kind of the packet. -/
def Globals.beyondFlow (g : Globals) : Globals :=
  { g with outAddr := {}, queue := [], held := none, isUdp := false, isSip := false, isRtp := false }

/-- Events that say nothing about the session. -/
def IsPlain : Event → Prop
  | .started status => status ≠ 0
  | .handedOver _ | .fragmented _ | .rawMessage _ _ | .rtpMessage _ => True
  | _ => False

/-- Plain events that are not about a packet either. -/
def IsSilent : Event → Prop
  | .started status => status ≠ 0
  | .rtpMessage _ => True
  | _ => False

/-- The relation lets the globals change as long as a part of them stays. -/
def Permits {κ : Type} (R : Process → Process → Prop) (part : Globals → κ) : Prop :=
  ∀ (w : Process) (g : Globals), part g = part w.ext → R w { w with ext := g }

/-- A relation that takes notice of a part of the globals only, and of no silent event. -/
structure Overlooks {κ : Type} (R : Process → Process → Prop) (part : Globals → κ) : Prop
    extends Allows R where
  globals : Permits R part
  event : ∀ (w : Process) (e : Event), IsSilent e → R w { w with log := e :: w.log }

/-- A relation that allows every step outside the core. -/
structure Admits (R : Process → Process → Prop) : Prop extends Allows R where
  globals : Permits R Globals.core
  event : ∀ (w : Process) (e : Event), IsSilent e → R w { w with log := e :: w.log }

/-- A relation that may also be about the flags of the calls. -/
structure AdmitsMedia (R : Process → Process → Prop) : Prop extends Allows R where
  globals : Permits R fun g => (g.core, g.call)
  event : ∀ (w : Process) (e : Event), IsSilent e → R w { w with log := e :: w.log }

/-- Events about a packet that is forwarded. -/
def IsAboutPacket : Event → Prop
  | .handedOver _ | .fragmented _ | .rawMessage _ _ => True
  | _ => False

/-- The events about one packet. -/
def IsOf (packet : ℕ) : Event → Prop
  | .handedOver id | .fragmented id | .rawMessage id _ => id = packet
  | _ => False

theorem IsOf.isPlain {packet : ℕ} {e : Event} (h : IsOf packet e) : IsPlain e := by
  cases e <;> trivial

/-- A relation that takes no notice of the session either. -/
structure Ignores (R : Process → Process → Prop) : Prop extends Allows R where
  globals : Permits R Globals.core
  apply : ∀ w : Process, R w { w with ext := { w.ext with applySrpp := true } }
  event : ∀ (w : Process) (e : Event), ¬IsAboutPacket e → R w { w with log := e :: w.log }

/-- A relation that takes no notice of the session, but may be about the flags of the calls. -/
structure IgnoresMedia (R : Process → Process → Prop) : Prop extends Allows R where
  globals : Permits R fun g => (g.core, g.call)
  apply : ∀ w : Process, R w { w with ext := { w.ext with applySrpp := true } }
  event : ∀ (w : Process) (e : Event), ¬IsAboutPacket e → R w { w with log := e :: w.log }

theorem IsSilent.not_isAboutPacket {e : Event} (h : IsSilent e) : ¬IsAboutPacket e := by
  cases e <;> first | exact id | exact h.elim

section Permissions
variable {κ ι : Type} {R : Process → Process → Prop} {part : Globals → κ}

theorem Permits.within (h : Permits R part) {f : Globals → Globals}
    (hf : ∀ g, part (f g) = part g) : Within R (setGlobals f) :=
  .modify fun w => h w _ (hf w.ext)

/-- What may change while more stays may change. -/
theorem Permits.weaken {more : Globals → ι} (h : Permits R part) (f : ι → κ)
    (hf : ∀ g, part g = f (more g)) : Permits R more :=
  fun w g hm => h w g (by rw [hf, hf, hm])

/-- What a smaller relation permits. -/
theorem Permits.mono {R' : Process → Process → Prop} (h : Permits R part)
    (hR : ∀ w w', R w w' → R' w w') : Permits R' part :=
  fun w g hg => hR _ _ (h w g hg)

theorem Permits.kind (h : Permits R Globals.beyondFlow) : Permits R Globals.beyondKind :=
  h.weaken Globals.beyondFlow fun _ => rfl

theorem Permits.rules (h : Permits R Globals.beyondFilter) : Permits R Globals.beyondRules :=
  h.weaken Globals.beyondFilter fun _ => rfl

theorem Overlooks.setGlobals (h : Overlooks R part) {f : Globals → Globals}
    (hf : ∀ g, part (f g) = part g) : Within R (setGlobals f) :=
  h.globals.within hf

theorem Overlooks.observe (h : Overlooks R part) {e : Event} (he : IsSilent e) :
    Within R (observe e : Op Unit) :=
  .modify fun w => h.event w e he

theorem Overlooks.weaken {more : Globals → ι} (h : Overlooks R part) (f : ι → κ)
    (hf : ∀ g, part g = f (more g)) : Overlooks R more where
  toAllows := h.toAllows
  globals := h.globals.weaken f hf
  event := h.event

/-- Where the flags of the calls may change, less may change too. -/
theorem Overlooks.flags (h : Overlooks R fun g => (g.core, g.ledger)) :
    Overlooks R fun g => (g.core, g.call, g.ledger) :=
  h.weaken (fun p => (p.1, p.2.2)) fun _ => rfl

theorem Admits.setGlobals (h : Admits R) {f : Globals → Globals} (hf : ∀ g, (f g).core = g.core) :
    Within R (setGlobals f) :=
  h.globals.within hf

theorem Admits.media (h : Admits R) : AdmitsMedia R where
  toAllows := h.toAllows
  globals := h.globals.weaken Prod.fst fun _ => rfl
  event := h.event

/-- What is not in the core and is no list either. -/
theorem Admits.calls (h : Admits R) : Overlooks R fun g => (g.core, g.ledger) where
  toAllows := h.toAllows
  globals := h.globals.weaken Prod.fst fun _ => rfl
  event := h.event

/-- What is neither in the core nor a flag of the calls, and no list either. -/
theorem AdmitsMedia.quiet (h : AdmitsMedia R) : Overlooks R fun g => (g.core, g.call, g.ledger) where
  toAllows := h.toAllows
  globals := h.globals.weaken (fun p => (p.1, p.2.1)) fun _ => rfl
  event := h.event

theorem AdmitsMedia.setGlobals (h : AdmitsMedia R) {f : Globals → Globals}
    (hf : ∀ g, ((f g).core, (f g).call) = (g.core, g.call)) : Within R (setGlobals f) :=
  h.globals.within hf

theorem Ignores.admits (h : Ignores R) : Admits R where
  toAllows := h.toAllows
  globals := h.globals
  event w e he := h.event w e he.not_isAboutPacket

theorem Ignores.media (h : Ignores R) : IgnoresMedia R where
  toAllows := h.toAllows
  globals := h.globals.weaken Prod.fst fun _ => rfl
  apply := h.apply
  event := h.event

theorem IgnoresMedia.mono {R' : Process → Process → Prop} (h : IgnoresMedia R)
    (hR : ∀ w w', R w w' → R' w w') : IgnoresMedia R' where
  lib w l hl := hR _ _ (h.lib w l hl)
  complete w := hR _ _ (h.complete w)
  globals := h.globals.mono hR
  apply w := hR _ _ (h.apply w)
  event w e he := hR _ _ (h.event w e he)

theorem IgnoresMedia.admits (h : IgnoresMedia R) : AdmitsMedia R where
  toAllows := h.toAllows
  globals := h.globals
  event w e he := h.event w e he.not_isAboutPacket

theorem IgnoresMedia.observe (h : IgnoresMedia R) {e : Event} (he : ¬IsAboutPacket e) :
    Within R (Library.observe e : Op Unit) :=
  .modify fun w => h.event w e he

end Permissions

/-! ## The packet filter -/

section Filter
variable {R : Process → Process → Prop} (hf : Permits R Globals.beyondRules)
include hf

theorem deleteRule_within (r : Rule) : Within R (deleteRule r) :=
  .bind .get fun _ => .ite (.bind (hf.within fun _ => rfl) fun _ => .pure _) (.pure _)

theorem changeRule_within (isAdding : Bool) (r : Rule) : Within R (changeRule isAdding r) :=
  .ite (.bind (hf.within fun _ => rfl) fun _ => .pure _) (deleteRule_within hf r)

theorem changeRules_within (isAdding : Bool) (inward outward : Rule) {done : Globals → Globals}
    (h : ∀ g, (done g).beyondRules = g.beyondRules) :
    Within R (changeRules isAdding inward outward done) := by
  refine .bind (changeRule_within hf _ _) fun _ => .ite (.pure _)
    (.bind (changeRule_within hf _ _) fun _ =>
      .ite (.bind (deleteRule_within hf _) fun _ => .pure _) ?_)
  exact .bind (hf.within h) fun _ => .pure _

theorem addAllRules_within (isAdding isUdp : Bool) : Within R (addAllRules isAdding isUdp) := by
  refine .bind .get fun w => .ite (.pure _) (.bind (.ite (hf.within fun _ => rfl) (.pure _))
    fun _ => changeRules_within hf _ _ _ fun g => ?_)
  split_ifs <;> rfl

theorem addAllRtpRules_within (isAdding isUdp : Bool) : Within R (addAllRtpRules isAdding isUdp) :=
  .bind .get fun _ => .ite (.pure _) (changeRules_within hf _ _ _ fun _ => rfl)

end Filter

/-! ## The sockets -/

section Sockets
variable {R : Process → Process → Prop} (env : Env)
variable (hR : Overlooks R fun g => (g.core, g.call, g.ledger))
include hR

/-- The send functor writes to the destination. -/
theorem sendRtpMessage_within (ha : Permits R Globals.beyondAddress) (d : List Byte) :
    Within R (sendRtpMessage env d) := by
  refine .ite (.pure _) (.bind (hR.onLib nextTick_within) fun _ => .bind .get fun w =>
    .ite (.throw _) (.bind (hR.setGlobals fun _ => rfl) fun _ => ?_))
  exact .bind (ha.within fun _ => rfl) fun _ => .bind .get fun _ => .bind (hR.observe trivial) fun _ =>
    .pure _

variable {packet : ℕ}
variable (hp : ∀ (w : Process) (e : Event), IsOf packet e → R w { w with log := e :: w.log })
include hp

omit hR in
theorem sendRawMessage_within (buff : Mem) (length : ℤ) :
    Within R (sendRawMessage packet buff length) :=
  .bind .get fun _ => .ite (.pure _) (.ite (.pure _)
    (.bind (.modify fun w => hp w _ rfl) fun _ => .pure _))

theorem sendFragmentedMessage_within (buff : Mem) (bytesRead : ℤ) :
    Within R (sendFragmentedMessage env packet buff bytesRead) := by
  refine .bind .get fun w => .bind (hR.setGlobals fun _ => rfl) fun _ =>
    .bind (.modify fun w => hp w _ rfl) fun _ => .bind (sendRawMessage_within hp _ _) fun _ => ?_
  exact .bind (hR.onLib nextTick_within) fun _ => .bind (sendRawMessage_within hp _ _) fun _ =>
    .pure _

theorem forward_within (buff : Mem) (bytesRead : ℤ) :
    Within R (forward env packet buff bytesRead) :=
  .bind (.modify fun w => hp w _ rfl) fun _ => .ite (sendFragmentedMessage_within env hR hp _ _)
    (.bind (sendRawMessage_within hp _ _) fun _ => .pure _)

end Sockets

/-! ## SIP -/

section Text
variable {R : Process → Process → Prop} (host : Host)

theorem substrOp_within (s : List Byte) (pos n : ℕ) : Within R (substrOp s pos n) := by
  unfold substrOp
  cases substr s pos n with
  | none => exact .throw _
  | some t => exact .pure _

theorem fieldAfter_within (s : List Byte) (l skip : ℕ) (stop : List Byte) :
    Within R (fieldAfter host s l skip stop) :=
  .bind (substrOp_within _ _ _) fun _ => .pure _

end Text

/-- The messages whose session description `parse_sip` reads. -/
def describesMedia (s : List Byte) : Bool :=
  !contains s (text "BYE ") && !contains s (text "SIP/2.0 4") &&
    contains s (text "Content-Type: application/sdp") &&
    (contains s (text "200 OK") || contains s (text "ACK ") || contains s (text "INVITE sip:"))

section Sip
variable {R : Process → Process → Prop} (env : Env) (host : Host)

theorem setServer_within (ha : Permits R Globals.beyondAddress) (hostname : List Byte) :
    Within R (setServer host hostname) := by
  unfold setServer
  exact ha.within fun _ => rfl

section Media
variable (hR : Overlooks R fun g => (g.core, g.call, g.ledger))
include hR

theorem parseAudio_within (hf : Permits R Globals.beyondFilter) (s : List Byte) (inward : Bool) :
    Within R (parseAudio env host s inward) := by
  refine .ite (.bind (fieldAfter_within host _ _ _ _) fun r => .bind ?_ fun _ => .pure _)
    (.bind (hR.onLib nextTick_within) fun _ => .pure _)
  cases inward with
  | false => exact hf.within fun _ => rfl
  | true => exact hR.setGlobals fun _ => rfl

theorem parseConnection_within (s : List Byte) (inward : Bool) (l : ℕ) :
    Within R (parseConnection host s inward l) := by
  refine .bind (fieldAfter_within host _ _ _ _) fun r => hR.setGlobals fun g => ?_
  split_ifs <;> rfl

theorem backToServer_within : Within R backToServer := hR.setGlobals fun _ => rfl

theorem rememberServer_within : Within R rememberServer := hR.setGlobals fun _ => rfl

section Stop
variable {F : Functors Globals}

theorem stopDiscovering_within (hstop : Within R (stopSession env F))
    (hrules : Within R (addAllRules false true)) : Within R (stopDiscovering env F) := by
  refine .bind .get fun w => .bind (.ite (.bind hstop fun _ => .pure _) (.pure _)) fun _ => ?_
  exact .bind (hR.setGlobals fun _ => rfl) fun _ => .bind hrules fun _ => .pure _

theorem parseProfile_within (hstop : Within R (stopDiscovering env F)) (s : List Byte)
    (inward : Bool) (m : ℕ) : Within R (parseProfile env F s inward m) := by
  refine .ite ?_ (.ite ?_ (.ite (.ite ?_ ?_) (.pure _)))
  · exact .bind (hR.setGlobals fun _ => rfl) fun _ => .pure _
  · exact .bind (hR.setGlobals fun _ => rfl) fun _ => .pure _
  · exact .bind hstop fun _ => .pure _
  · exact .bind (hR.setGlobals fun _ => rfl) fun _ => .pure _

end Stop

section Server
variable (hserver : ∀ name, Within R (setServer host name))
include hserver

theorem parseRegister_within (s : List Byte) (inward : Bool) :
    Within R (parseRegister host s inward) :=
  .bind (substrOp_within _ _ _) fun _ => .bind (hserver _) fun _ =>
    .bind (.ite (rememberServer_within hR) (.pure _)) fun _ => .pure _

theorem parseSubscribe_within (s : List Byte) (inward : Bool) :
    Within R (parseSubscribe host s inward) :=
  .bind (substrOp_within _ _ _) fun _ => .bind (hserver _) fun _ =>
    .bind (.ite (rememberServer_within hR) (.pure _)) fun _ => .pure _

end Server

end Media

variable (hR : Overlooks R fun g => (g.core, g.ledger))
include hR

theorem startMedia_within
    (hports : Within R (setGlobals fun g => { g with rtpPorts := g.rtpPorts ++ [g.inport, g.outport] }))
    (hadd : Within R (addAllRtpRules true true)) (s : List Byte) (inward : Bool) :
    Within R (startMedia host s inward) := by
  refine .bind .get fun w => .bind (.ite (parseConnection_within host hR.flags _ _ _) (.pure _)) fun _ =>
    .bind hports fun _ => .bind .get fun w' => .ite ?_ (.pure _)
  exact .bind hadd fun _ => hR.setGlobals fun _ => rfl

variable {F : Functors Globals}

section Message
variable {w : Process} {s : List Byte} {inward : Bool}
variable (hprofile : ∀ m, Within R (parseProfile env F s inward m))
include hprofile

omit hprofile in
theorem startIfReady_within (hmedia : Within R (startMedia host s inward)) (goOn : Bool) :
    Within R (startIfReady host s inward goOn) :=
  .ite (.pure _) (.bind .get fun _ => .ite (.pure _) (.bind (.ite hmedia (.pure _)) fun _ =>
    .bind (backToServer_within hR.flags) fun _ => .pure _))

omit hprofile in
/-- A message is noted without a change to the core. -/
theorem noteAnswer_within (s : List Byte) (inward : Bool) : Within R (noteAnswer s inward) := by
  refine .ite (hR.setGlobals fun g => ?_) (hR.setGlobals fun g => ?_)
  · split_ifs <;> rfl
  · split_ifs <;> rfl

omit hprofile hR in
theorem noteAnswer_core {u : Process} (h : (noteAnswer s inward).run w = .ok ((), u)) :
    u.ext.core = w.ext.core := by
  unfold noteAnswer at h
  split_ifs at h
  all_goals
    cases h
    dsimp only
    split_ifs <;> rfl

/-- Nothing is written to the core before the session description is read. -/
theorem parseOk_within
    (haudio : contains s (text "Content-Type: application/sdp") = true → ∀ u : Process,
      u.ext.core = w.ext.core → WithinAt R u (parseAudio env host s inward))
    (hmedia : Within R (startMedia host s inward)) : WithinAt R w (parseOk env host F s inward) := by
  rw [parseOk_eq]
  refine (noteAnswer_within hR s inward w).bind fun _ u hu =>
    WithinAt.bind ?_ fun goOn v _ => startIfReady_within host hR hmedia goOn v
  unfold readAnswer
  split_ifs with hsdp
  · exact (haudio hsdp u (noteAnswer_core hu)).bind fun m v _ => hprofile m v
  · exact Within.pure _ u

omit hprofile in
theorem finishInvite_within (hserver : ∀ name, Within R (setServer host name)) (s : List Byte)
    (inward : Bool) : Within R (finishInvite host s inward) := by
  refine .bind (.ite (parseConnection_within host hR.flags s inward _) (.pure _)) fun _ =>
    .ite (.pure _) ?_
  exact .bind (hR.setGlobals fun _ => rfl) fun _ => .bind (substrOp_within _ _ _) fun _ =>
    .bind (hserver _) fun _ => .bind (rememberServer_within hR.flags) fun _ => .pure _

theorem parseInvite_within
    (haudio : ∀ u : Process, u.ext.core = w.ext.core → WithinAt R u (parseAudio env host s inward))
    (hserver : ∀ name, Within R (setServer host name)) :
    WithinAt R w (parseInvite env host F s inward) := by
  rw [parseInvite_eq]
  refine .modify_bind (.single (hR.globals _ _ rfl)) (.bind (haudio _ rfl) fun m u _ => ?_)
  exact .bind (hprofile m u) fun goOn v _ =>
    Within.ite (.pure _) (finishInvite_within host hR hserver s inward) v

theorem parseSip_within
    (haudio : describesMedia s = true → ∀ u : Process, u.ext.core = w.ext.core →
      WithinAt R u (parseAudio env host s inward))
    (hbye : contains s (text "BYE ") = true → WithinAt R w (parseBye env F))
    (hmedia : Within R (startMedia host s inward))
    (hserver : ∀ name, Within R (setServer host name)) :
    WithinAt R w (parseSip env host F s inward) := by
  have hback : Within R (do backToServer; return 0 : Op ℤ) :=
    .bind (backToServer_within hR.flags) fun _ => .pure _
  unfold parseSip
  split_ifs with hb he ho hi
  · exact hbye hb
  · exact hback w
  · refine parseOk_within env host hR hprofile (fun hsdp => haudio ?_) hmedia
    simp only [Bool.or_eq_true] at ho
    simpa [describesMedia, hb, he, hsdp] using Or.inl ho
  · refine parseInvite_within env host hR hprofile (haudio ?_) hserver
    rw [Bool.and_eq_true] at hi
    simp [describesMedia, hb, he, hi.1, hi.2]
  · exact parseRegister_within host hR.flags hserver s inward w
  · exact parseSubscribe_within host hR.flags hserver s inward w
  · exact hback w

end Message

/-- A relation that lets the filter change. -/
theorem parseSip_within_of_free (hf : Permits R Globals.beyondFilter)
    (hports : Within R (setGlobals fun g => { g with rtpPorts := g.rtpPorts ++ [g.inport, g.outport] }))
    (hserver : ∀ name, Within R (setServer host name)) (hstop : Within R (stopSession env F))
    (hbye : Within R (parseBye env F)) (s : List Byte) (inward : Bool) :
    Within R (parseSip env host F s inward) := fun w =>
  parseSip_within env host hR
    (fun m => parseProfile_within env hR.flags
      (stopDiscovering_within env hR.flags hstop (addAllRules_within hf.rules _ _)) s inward m)
    (fun _ u _ => parseAudio_within env host hR.flags hf s inward u) (fun _ => hbye w)
    (startMedia_within host hR hports (addAllRtpRules_within hf.rules _ _) s inward) hserver

end Sip

/-! ## The session -/

section Session
variable {R : Process → Process → Prop} (env : Env) {F : Functors Globals}

/-- The state in which a BYE has had the lengths of the packets written down. -/
def collected (w : Process) : Process :=
  { w with
    ext := { w.ext with
      sawByeAlready := true
      sizesTxt := sizeRows w.ext.inputPacketSizes w.ext.outputPacketSizes
      inputPacketSizes := [], outputPacketSizes := [], isSessionOn := false } }

theorem parseBye_within (hR : Overlooks R fun g => (g.core, g.ledger))
    (hcollect : ∀ w, R w (collected w))
    (hhandled : ∀ (w : Process) applied complete,
      R w { w with log := .byeHandled applied complete :: w.log })
    (hstop : Within R (stopSession env F)) (hdel : Within R (addAllRtpRules false true)) :
    Within R (parseBye env F) := by
  have hfinish : ∀ applied complete, Within R (finishBye applied complete) := fun _ _ =>
    .bind hdel fun _ => .bind (hR.setGlobals fun _ => rfl) fun _ =>
      .bind (hR.setGlobals fun _ => rfl) fun _ => .bind (.modify fun w => hhandled w _ _) fun _ => .pure _
  refine .bind .get fun _ => .ite (.pure _) (.bind .get fun _ => .bind (.modify hcollect) fun _ => ?_)
  exact .bind .get fun _ => .bind (.ite (.bind hstop fun _ => .pure _) (.pure _)) fun _ => hfinish _ _

theorem parseBye_within_of_free (hR : Ignores R) (hstop : Within R (stopSession env F))
    (hdel : Within R (addAllRtpRules false true)) : Within R (parseBye env F) :=
  parseBye_within env hR.admits.calls (fun w => hR.globals w _ rfl) (fun w _ _ => hR.event w _ id)
    hstop hdel

theorem tryStart_within (hR : Allows R)
    (happly : ∀ w : Process, R w { w with ext := { w.ext with applySrpp := true } })
    (hstarted : ∀ (w : Process) status, R w { w with log := .started status :: w.log })
    (hF : Holds R F) : Within R (tryStart env F) := by
  have hobserve : ∀ status, Within R (observe (.started status) : Op Unit) := fun status =>
    .modify fun w => hstarted w status
  have hstart : Within R (startSrpp env F) := by
    refine .bind (startSession_within env hR hF) fun _ => .bind .get fun _ => .ite ?_ ?_
    · exact .bind (hR.setLib fun _ => .quiet rfl rfl) fun _ =>
        .bind (stopSession_within env hR hF) fun _ => .bind (hobserve _) fun _ => .pure _
    · exact .bind (hR.setLib fun _ => .quiet rfl rfl) fun _ => .bind .get fun _ =>
        .bind (hR.setLib fun _ => .quiet rfl rfl) fun _ => .bind (hobserve _) fun _ => .pure _
  exact .bind hstart fun _ => .ite (.modify happly) (.pure _)

variable (hR : IgnoresMedia R)
include hR

theorem tryStart_within_of_free (hF : Holds R F) : Within R (tryStart env F) :=
  tryStart_within env hR.toAllows hR.apply (fun w _ => hR.event w _ id) hF

theorem applied_within (packet : ℕ) (x : Op (Mem × ℤ)) (r : Mem × ℤ) (hx : Within R x) :
    Within R (do
      if (← get).ext.applySrpp then
        observe (.converted packet)
        x
      else return r) :=
  .bind .get fun _ => .ite (.bind (hR.observe id) fun _ => hx) (.pure _)

end Session

/-! ## Packets -/

/-- The packet the next read finds. -/
def nextPacket (g : Globals) : Option Packet :=
  match g.queue with
  | some p :: _ => some p
  | _ => none

/-- The state behind a read. -/
def dequeued (w : Process) : Process := { w with ext := { w.ext with queue := w.ext.queue.tail } }

theorem readQueue_run (w : Process) : readQueue.run w = .ok (nextPacket w.ext, dequeued w) := by
  rw [readQueue, run_get_bind]
  unfold nextPacket dequeued
  rcases hq : w.ext.queue with _ | ⟨p, rest⟩
  · have hw : w = { w with ext := { w.ext with queue := [] } } := by rw [← hq]
    exact congrArg (fun u => Except.ok (none, u)) hw
  · cases p with
    | none => rfl
    | some p => rfl

/-- The state in which the buffer of the main loop holds the next message. -/
def holding (w : Process) : Process :=
  { w with ext := { w.ext with held := w.ext.queue.headD w.ext.held } }

theorem readLoop_run (w : Process) : readLoop.run w = .ok (nextPacket w.ext, dequeued (holding w)) :=
  readQueue_run (holding w)

/-- The media branch. -/
def handleRtp (env : Env) (F : Functors Globals) (packet : ℕ) (inward : Bool) (buff : Mem)
    (bytesRead offset : ℤ) (source : BitVec 16) : Op (Option ℤ) := do
  if inward then
    inboundRtp env F packet buff bytesRead offset source
    return none
  else outboundRtp env F packet buff bytesRead offset

section Packets
variable {R : Process → Process → Prop} (env : Env) (host : Host)
variable (hR : Overlooks R fun g => (g.core, g.call, g.ledger))
include hR

theorem captureHeader_within (buff : Mem) : Within R (captureHeader buff) := by
  refine hR.setGlobals fun g => ?_
  split_ifs <;> rfl

theorem decodeInbound_within (buff : Mem) (bytesRead : ℤ) :
    Within R (decodeInbound env buff bytesRead) :=
  .bind (hR.onLib nextTick_within) fun _ => .bind .get fun _ =>
    .bind (.ite (.lift _) (.lift _)) fun _ => .bind (hR.setGlobals fun _ => rfl) fun _ => .pure _

omit hR in
theorem encodeOutbound_within (hR : AdmitsMedia R) (buff : Mem) (bytesRead : ℤ) :
    Within R (encodeOutbound env buff bytesRead) := by
  refine .bind (hR.setGlobals fun _ => rfl) fun _ => .bind (hR.setGlobals fun g => ?_) fun _ =>
    .bind .get fun w => .bind (.lift _) fun data =>
      .bind (hR.onLib (rtpToSrppOp_within env _ _)) fun msg => ?_
  · split_ifs <;> rfl
  · exact .bind (hR.setGlobals fun _ => rfl) fun _ => .bind (hR.onLib (scratch_within env))
      fun _ => .bind .get fun _ => .lift _

section Prepare
variable {F : Functors Globals} (hstart : Within R (tryStart env F))
variable (hconv : ∀ (packet : ℕ) (x : Op (Mem × ℤ)) (r : Mem × ℤ), Within R x → Within R (do
  if (← get).ext.applySrpp then
    observe (.converted packet)
    x
  else return r))
include hstart hconv

theorem prepareInbound_within
    (hdata : ∀ mem bytesRead, Within R (processReceivedData env F mem bytesRead)) (packet : ℕ)
    (buff : Mem) (bytesRead : ℤ) (source : BitVec 16) :
    Within R (prepareInbound env F packet buff bytesRead source) := by
  refine .bind (hR.setGlobals fun _ => rfl) fun _ => .bind (.ite ?_ (.pure _)) fun _ =>
    .bind (captureHeader_within hR buff) fun _ => .bind .get fun w =>
      .bind (.ite hstart (.pure _)) fun _ => ?_
  · exact .bind (hdata _ _) fun _ => .pure _
  · exact hconv packet _ _ (decodeInbound_within env hR buff bytesRead)

omit hR in
theorem prepareOutbound_within (hR : AdmitsMedia R) (packet : ℕ) (buff : Mem) (bytesRead : ℤ) :
    Within R (prepareOutbound env F packet buff bytesRead) :=
  .bind (hR.setGlobals fun _ => rfl) fun _ => .bind .get fun _ =>
    .bind (.ite hstart (.pure _)) fun _ =>
      hconv packet _ _ (encodeOutbound_within env hR buff bytesRead)

end Prepare

omit hR in
/-- A relation that takes no notice of the session. -/
theorem prepareInbound_within_of_free (hR : IgnoresMedia R) {F : Functors Globals} (hF : Holds R F)
    (packet : ℕ) (buff : Mem) (bytesRead : ℤ) (source : BitVec 16) :
    Within R (prepareInbound env F packet buff bytesRead source) :=
  prepareInbound_within env hR.admits.quiet (tryStart_within_of_free env hR hF) (applied_within hR)
    (processReceivedData_within env hR.toAllows hF) packet buff bytesRead source

omit hR in
theorem prepareOutbound_within_of_free (hR : IgnoresMedia R) {F : Functors Globals} (hF : Holds R F)
    (packet : ℕ) (buff : Mem) (bytesRead : ℤ) :
    Within R (prepareOutbound env F packet buff bytesRead) :=
  prepareOutbound_within env (tryStart_within_of_free env hR hF) (applied_within hR) hR.admits packet buff
    bytesRead

section Flow

section Packet
variable (ha : Permits R Globals.beyondAddress) {packet : ℕ}
variable (hp : ∀ (w : Process) (e : Event), IsOf packet e → R w { w with log := e :: w.log })
include ha hp

theorem forwardSip_within (buff : Mem) (bytesRead : ℤ) (inward : Bool) :
    Within R (forwardSip env packet buff bytesRead inward) := by
  refine .bind (.ite (ha.within fun _ => rfl) (.pure _)) fun _ => .bind .get fun w =>
    .bind (forward_within env hR hp _ _) fun _ => ?_
  exact .bind (.ite (ha.within fun _ => rfl) (.pure _)) fun _ => .pure _

theorem deliverInbound_within (buff : Mem) (bytesRead offset : ℤ) :
    Within R (deliverInbound env packet buff bytesRead offset) :=
  .bind .get fun _ => .bind (ha.within fun _ => rfl) fun _ =>
    .bind (forward_within env hR hp _ _) fun _ => .pure _

theorem captureAndForward_within (buff : Mem) (bytesRead offset : ℤ) :
    Within R (do
      let buff := addressOutbound (← get).ext buff bytesRead offset
      captureHeader buff
      setGlobals fun g => { g with outAddr := ⟨g.rtpDest, htonsInt g.outport⟩ }
      let _ ← forward env packet buff bytesRead : Op Unit) :=
  .bind .get fun _ => .bind (captureHeader_within hR _) fun _ => .bind (ha.within fun _ => rfl) fun _ =>
    .bind (forward_within env hR hp _ _) fun _ => .pure _

omit hR in
theorem deliverOutbound_within (hR : AdmitsMedia R) (buff : Mem) (bytesRead offset : ℤ) :
    Within R (deliverOutbound env packet buff bytesRead offset) :=
  .bind (hR.setGlobals fun _ => rfl) fun _ =>
    captureAndForward_within env hR.quiet ha hp buff bytesRead offset

end Packet

variable {F : Functors Globals} {w w' : Process} {p : Packet}
variable (hp : ∀ (w : Process) (e : Event), IsOf p.id e → R w { w with log := e :: w.log })
include hp

/-- The SIP branch goes by steps from the end of `parse_sip` on. -/
theorem handleSip_parsed (ha : Permits R Globals.beyondAddress) {inward : Bool} {r : Mem × ℤ}
    (h : (handleSip env host F p.id p.mem p.bytes.length inward).run w = .ok (r, w')) :
    ∃ status v, (parseSip env host F (sipText p) inward).run w = .ok (status, v) ∧
      Relation.ReflTransGen R v w' := by
  have hcapture : ∀ r : Mem × ℤ, Within R (do captureSipHeader r.1; return r : Op (Mem × ℤ)) := by
    refine fun r => .bind (hR.setGlobals fun g => ?_) fun _ => .pure _
    split_ifs <;> rfl
  rw [handleSip_eq] at h
  split_ifs at h
  · cases h
  · rcases run_bind_eq_ok h with ⟨r', u, hforward, h⟩
    rcases run_bind_eq_ok hforward with ⟨status, v, hparse, hforward⟩
    refine ⟨status, v, hparse, .trans ?_ (hcapture r' u r w' h)⟩
    refine Within.bind .get (fun _ => .ite ?_ (.pure _)) v r' u hforward
    exact .bind (forwardSip_within env hR ha hp p.mem p.bytes.length inward) fun _ => .pure _

theorem handleSip_within (ha : Permits R Globals.beyondAddress) {inward : Bool}
    (hsip : WithinAt R w (parseSip env host F (sipText p) inward)) :
    WithinAt R w (handleSip env host F p.id p.mem p.bytes.length inward) := by
  intro r w' h
  rcases handleSip_parsed env host hR hp ha h with ⟨status, v, hparse, hrest⟩
  exact (hsip status v hparse).trans hrest

section Rtp
variable (hkind : Permits R Globals.beyondKind)
include hkind

omit hR in
/-- Both directions of the media branch. -/
theorem handleRtp_within (hR : AdmitsMedia R)
    (hin : ∀ packet buff bytesRead source,
      Within R (prepareInbound env F packet buff bytesRead source))
    (hout : ∀ packet buff bytesRead, Within R (prepareOutbound env F packet buff bytesRead))
    (inward : Bool) (buff : Mem) (bytesRead offset : ℤ) (source : BitVec 16) :
    Within R (handleRtp env F p.id inward buff bytesRead offset source) := by
  have ha : Permits R Globals.beyondAddress := hkind.weaken Globals.beyondKind fun _ => rfl
  refine .ite (.bind (.bind (hin _ _ _ _) fun r =>
    deliverInbound_within env hR.quiet ha hp r.1 r.2 offset) fun _ => .pure _) ?_
  refine .bind (hR.setGlobals fun _ => rfl) fun _ => .bind .get fun _ => .ite (.pure _)
    (.bind (hout _ _ _) fun r => ?_)
  exact .bind (deliverOutbound_within env ha hp hR r.1 r.2 offset) fun _ => .pure _

variable (hrtp : ∀ inward buff bytesRead offset source,
  Within R (handleRtp env F p.id inward buff bytesRead offset source))
include hrtp

/-- A SIP packet goes by steps from the end of `parse_sip` on. -/
theorem processPacket_parsed (hs : IsSip w.ext.sipPorts p) {r : Option ℤ}
    (h : (processPacket env host F p).run w = .ok (r, w')) :
    ∃ status v, (parseSip env host F (sipText p) (isInward host p)).run (enterSip w p) =
      .ok (status, v) ∧ Relation.ReflTransGen R v w' := by
  have ha : Permits R Globals.beyondAddress := hkind.weaken Globals.beyondKind fun _ => rfl
  rw [processPacket_sip hs] at h
  rcases run_bind_eq_ok h with ⟨b, u, hu, h⟩
  rcases handleSip_parsed env host hR hp ha hu with ⟨status, v, hparse, hrest⟩
  refine ⟨status, v, hparse, hrest.trans ?_⟩
  exact Within.bind .get (fun _ => .ite (hrtp _ _ _ _ _) (.pure _)) u r w' h

omit hR hp in
/-- Any other packet goes by steps. -/
theorem processPacket_unparsed (hs : ¬IsSip w.ext.sipPorts p) :
    WithinAt R w (processPacket env host F p) := by
  by_cases hm : IsMedia w.ext p
  · refine .of_run_eq (processPacket_media hm) (.single (hkind w _ rfl)) ?_
    have hmedia := hrtp (decide (IsInward host p))
    simp only [handleRtp, decide_eq_true_eq] at hmedia
    exact hmedia _ _ _ _ _
  · rcases dropPacket_run p w with ⟨_, _, _, _, -, hdrop⟩
    exact .of_run ((processPacket_other hs hm).trans hdrop) (hkind w _ rfl)

/-- A packet is given to `parse_sip` with nothing changed but the kind of the packet. -/
theorem processPacket_within
    (hsip : IsSip w.ext.sipPorts p → ∀ u : Process, u.ext.beyondFlow = w.ext.beyondFlow →
      WithinAt R u (parseSip env host F (sipText p) (isInward host p))) :
    WithinAt R w (processPacket env host F p) := by
  by_cases hs : IsSip w.ext.sipPorts p
  · intro r w' h
    rcases processPacket_parsed env host hR hp hkind hrtp hs h with ⟨status, v, hparse, hrest⟩
    have henter : R w (enterSip w p) := hkind w _ rfl
    exact .head henter ((hsip hs (enterSip w p) rfl status v hparse).trans hrest)
  · exact processPacket_unparsed env host hkind hrtp hs

end Rtp

end Flow

end Packets

/-! ## Reading packets -/

section Reading
variable {env : Env} {host : Host} {F : Functors Globals} {w w' : Process}

/-- The state in which a packet read by a handler is looked at. -/
def afterRead (w : Process) : Process := dequeued { w with lib := w.lib.constructed }

/-- All that the receive functor can do. -/
theorem receiveWith_cases {process : Packet → Op (Option ℤ)}
    (h : (receiveWith env F process).run w = .ok ((), w')) :
    ((∀ p, nextPacket w.ext = some p → p.bytes = []) ∧ w' = afterRead w) ∨
    (∃ p r, nextPacket w.ext = some p ∧ isSignalingBuffer (p.mem.shift 28) = 1 ∧
      (processReceivedData env F (p.mem.shift 28) (p.bytes.length - 28)).run (afterRead w) =
        .ok (r, w')) ∨
    ∃ p r, nextPacket w.ext = some p ∧ isSignalingBuffer (p.mem.shift 28) ≠ 1 ∧
      (process p).run (afterRead w) = .ok (r, w') := by
  have hidle : (onLib (unusedMessage env) : Op Unit).run w =
      .ok ((), { w with lib := w.lib.constructed }) := rfl
  rw [receiveWith, run_bind_ok hidle, run_bind_ok (readQueue_run _)] at h
  dsimp only at h
  cases hnext : nextPacket w.ext with
  | none =>
    rw [hnext] at h
    cases h
    exact .inl ⟨nofun, rfl⟩
  | some p =>
    rw [hnext] at h
    dsimp only at h
    split_ifs at h with hempty hsignal
    · cases h
      exact .inl ⟨fun q hq => Option.some.inj hq ▸ hempty, rfl⟩
    · rcases run_bind_eq_ok h with ⟨r, u, hu, hrest⟩
      cases hrest
      exact .inr (.inl ⟨p, r, rfl, hsignal, hu⟩)
    · rcases run_bind_eq_ok h with ⟨r, u, hu, hrest⟩
      cases hrest
      exact .inr (.inr ⟨p, r, rfl, hsignal, hu⟩)

/-- All that a round can do. -/
theorem roundWith_cases {process : Packet → Op (Option ℤ)}
    (h : (roundWith process).run w = .ok ((), w')) :
    ((∀ p, nextPacket w.ext = some p → p.bytes = []) ∧ w' = dequeued (holding w)) ∨
    ∃ p r, nextPacket w.ext = some p ∧ (process p).run (dequeued (holding w)) = .ok (r, w') := by
  rw [roundWith, run_bind_ok (readLoop_run _)] at h
  cases hnext : nextPacket w.ext with
  | none =>
    rw [hnext] at h
    cases h
    exact .inl ⟨nofun, rfl⟩
  | some p =>
    rw [hnext] at h
    dsimp only at h
    split_ifs at h with hempty
    · cases h
      exact .inl ⟨fun q hq => Option.some.inj hq ▸ hempty, rfl⟩
    · rcases run_bind_eq_ok h with ⟨r, u, hu, hrest⟩
      cases hrest
      exact .inr ⟨p, r, rfl, hu⟩

/-- A round reads a packet and gives it to the program. -/
theorem roundWith_within {R : Process → Process → Prop} {process : Packet → Op (Option ℤ)}
    (hread : Relation.ReflTransGen R w (dequeued (holding w)))
    (hprocess : ∀ p, nextPacket w.ext = some p → WithinAt R (dequeued (holding w)) (process p)) :
    WithinAt R w (roundWith process) := by
  intro _ w' h
  rcases roundWith_cases h with ⟨-, rfl⟩ | ⟨p, r, hnext, hrun⟩
  · exact hread
  · exact hread.trans (hprocess p hnext r w' hrun)

/-- A packet is read with nothing changed but the queue. -/
theorem receiveRtpMessage_within {R : Process → Process → Prop} (hR : Allows R)
    (ha : Permits R Globals.beyondFlow)
    (hdata : ∀ mem bytesRead, Within R (processReceivedData env F mem bytesRead))
    (hpacket : ∀ (p : Packet) (u : Process), nextPacket w.ext = some p →
      isSignalingBuffer (p.mem.shift 28) ≠ 1 → u.ext.beyondFlow = w.ext.beyondFlow →
        WithinAt R u (processPacket env host F p)) :
    WithinAt R w (receiveRtpMessage env host F) := by
  have hread : Relation.ReflTransGen R w (afterRead w) :=
    .tail (hR.onLib (unusedMessage_within env) w () { w with lib := w.lib.constructed } rfl)
      (ha _ _ rfl)
  intro _ w' h
  rcases receiveWith_cases h with ⟨-, rfl⟩ | ⟨p, r, -, -, hrun⟩ | ⟨p, r, hnext, hsignal, hrun⟩
  · exact hread
  · exact hread.trans (hdata _ _ _ r w' hrun)
  · exact hread.trans (hpacket p (afterRead w) hnext hsignal rfl r w' hrun)

end Reading

end Sqrkal.Discovery
