import Sqrkal.Discovery.Alarms
import Sqrkal.Library.Unanswered

/-! # The port of SIP packets

There is one destination for SIP and media. A media packet and a message of the library
leave the port of the media in it, and of the SIP messages only those that name a server
put back the port of SIP. So a SIP packet goes to the right port if it names a server or
follows another SIP packet, and nothing is sent while it is being handled: no media packet, no
answer, and no dummy by an alarm.
-/

namespace Sqrkal.Discovery
open Foundation Message Library Relation

/-! ## Messages that name a server -/

/-- The media profile from `m` on is SRPP and no other. -/
def isSrppProfile (s : List Byte) (m : ℕ) : Bool :=
  !((find s (text "RTP/SAVP ") m).isSome || (find s (text "zrtp") m).isSome) &&
    !(find s (text "RTP/AVP ") m).isSome && (find s (text "SRPP:") m).isSome

/-- An outgoing session description ends the discovery. Without an `m=audio` line the
profile is looked for from anywhere. -/
def endsDiscovery (host : Host) (s : List Byte) : Bool :=
  let l := uintPosition host (find s (text "m=audio ") 0)
  if isFound host l then
    isSrppProfile s (uintPosition host (findFirstOf s (text " ") (toUint (l + 8))))
  else contains s (text "SRPP:")

/-- `parse_sip` sets the destination, with its port, from the message. -/
def setsServer (host : Host) (s : List Byte) (inward : Bool) : Bool :=
  if contains s (text "BYE ") || contains s (text "SIP/2.0 4") || contains s (text "200 OK") ||
    contains s (text "ACK ") then false
  else if contains s (text "INVITE sip:") && contains s (text "Content-Type: application/sdp") then
    !inward && !endsDiscovery host s
  else contains s (text "REGISTER sip:") || contains s (text "SUBSCRIBE sip:") ||
    contains s (text "PUBLISH sip:")

section Server
variable {env : Env} {host : Host} {F : Functors Globals} {s : List Byte} {inward : Bool}
variable {w w' : Process} {r : ℤ}

/-- An outgoing description that does not end the discovery is read to its end. -/
theorem parseProfile_goOn {m : ℕ} {goOn : Bool} (hm : isSrppProfile s m = false)
    (h : (parseProfile env F s inward m).run w = .ok (goOn, w')) : goOn = true := by
  unfold parseProfile at h
  split_ifs at h with hsavp havp hsrpp hin
  · cases h
    rfl
  · cases h
    rfl
  · simp [isSrppProfile, hsavp, havp, hsrpp] at hm
  · cases h
    rfl
  · cases h
    rfl

theorem parseAudio_profile {m : ℕ} (hs : endsDiscovery host s = false)
    (h : (parseAudio env host s inward).run w = .ok (m, w')) : isSrppProfile s m = false := by
  unfold parseAudio at h
  unfold endsDiscovery at hs
  by_cases hfound : isFound host (uintPosition host (find s (text "m=audio ") 0)) = true
  · dsimp only at h hs
    rw [if_pos hfound] at h hs
    rcases run_bind_eq_ok h with ⟨⟨field, m'⟩, u, hfield, hrest⟩
    rcases run_bind_eq_ok hfield with ⟨field', u', -, hfield'⟩
    cases hfield'
    cases hrest
    exact hs
  · dsimp only at hs
    rw [if_neg hfound] at hs
    rw [isSrppProfile, find_eq_none hs m]
    exact Bool.and_false _

theorem parseInvite_port (hs : endsDiscovery host s = false)
    (h : (parseInvite env host F s false).run w = .ok (r, w')) :
    w'.ext.outAddr.port = htonsInt 5060 := by
  rcases run_bind_eq_ok h with ⟨_, u₁, -, h₁⟩
  rcases run_bind_eq_ok h₁ with ⟨m, u₂, haudio, h₂⟩
  rcases run_bind_eq_ok h₂ with ⟨goOn, u₃, hprofile, h₃⟩
  rw [parseProfile_goOn (parseAudio_profile hs haudio) hprofile] at h₃
  rcases run_bind_eq_ok h₃ with ⟨_, u₄, -, h₄⟩
  rcases run_bind_eq_ok h₄ with ⟨_, u₅, -, h₅⟩
  rcases run_bind_eq_ok h₅ with ⟨name, u₆, -, h₆⟩
  cases h₆
  rfl

/-- The end of the branches that name a server. -/
theorem nameServer_port {name : List Byte} (h : (do
      setServer host name
      (if !inward then rememberServer else pure ())
      return 0 : Op ℤ).run w = .ok (r, w')) : w'.ext.outAddr.port = htonsInt 5060 := by
  cases inward with
  | true =>
    cases h
    rfl
  | false =>
    cases h
    rfl

theorem parseRegister_port (h : (parseRegister host s inward).run w = .ok (r, w')) :
    w'.ext.outAddr.port = htonsInt 5060 := by
  rcases run_bind_eq_ok h with ⟨name, u, -, hrest⟩
  exact nameServer_port hrest

theorem parseSubscribe_port (h : (parseSubscribe host s inward).run w = .ok (r, w')) :
    w'.ext.outAddr.port = htonsInt 5060 := by
  rcases run_bind_eq_ok h with ⟨name, u, -, hrest⟩
  exact nameServer_port hrest

theorem parseSip_port (hs : setsServer host s inward = true)
    (h : (parseSip env host F s inward).run w = .ok (r, w')) :
    w'.ext.outAddr.port = htonsInt 5060 := by
  unfold setsServer at hs
  unfold parseSip at h
  split_ifs at hs with hnone hinvite
  · simp only [Bool.or_eq_true, not_or] at hnone
    rw [if_neg hnone.1.1.1, if_neg hnone.1.1.2, if_neg (by simp [hnone.1.2, hnone.2]),
      if_pos hinvite] at h
    simp only [Bool.and_eq_true, Bool.not_eq_true'] at hs
    rw [hs.1] at h
    exact parseInvite_port hs.2 h
  · simp only [Bool.or_eq_true, not_or] at hnone
    rw [if_neg hnone.1.1.1, if_neg hnone.1.1.2, if_neg (by simp [hnone.1.2, hnone.2]),
      if_neg hinvite] at h
    by_cases hregister : contains s (text "REGISTER sip:") = true
    · rw [if_pos hregister] at h
      exact parseRegister_port h
    · rw [if_neg hregister, if_pos (by simpa [hregister] using hs)] at h
      exact parseSubscribe_port h

end Server

/-! ## The condition -/

/-- The last packet that was sent is a SIP packet, or none has been sent. -/
def lastIsSip (sip : ℕ → Bool) : List Event → Bool
  | [] => true
  | .handedOver id :: _ => sip id
  | .rtpMessage _ :: _ => false
  | _ :: log => lastIsSip sip log

/-- The type of a signalling message in a packet. -/
def signalType (p : Packet) : BitVec 32 := (SRPPHeader.load (p.mem.shift 28) 0).ofWire.srppSignalling

/-- A SIP packet that names no server comes when nothing has been sent since the last SIP
packet, and while a SIP packet is being handled no media packet is processed and no
signalling message answered. The packets are numbered such that the number tells SIP from
other packets. -/
def sipInOrder (host : Host) (sip : ℕ → Bool) : Condition where
  arrival w p := sip p.id == decide (IsSip w.ext.sipPorts p)
  reading handled w :=
    match nextPacket w.ext with
    | none => true
    | some p =>
      let inSip := handled.any fun q => decide (IsSip w.ext.sipPorts q)
      if isProcessed handled p then
        (!decide (IsSip w.ext.sipPorts p) || setsServer host (sipText p) (isInward host p) ||
            lastIsSip sip w.log) &&
          (!inSip || !decide (IsMedia w.ext p))
      else !inSip || !isAnswered w.lib.flags (signalType p)

/-! ## The invariant -/

/-- The port of the destination is that of SIP, or not set. -/
def PortKept (w : Process) : Prop := w.ext.outAddr.port = 0 ∨ w.ext.outAddr.port = htonsInt 5060

/-- Every datagram for a SIP packet has gone to the port of SIP, and behind a SIP packet
that port is in place. -/
structure SipRouted (sip : ℕ → Bool) (ports : List ℤ) (w : Process) : Prop where
  sipPorts : w.ext.sipPorts = ports
  labelled : ∀ p, some p ∈ w.ext.queue → sip p.id = decide (IsSip ports p)
  sent : ∀ id d, .rawMessage id d ∈ w.log → sip id = true → d.port = htonsInt 5060
  kept : lastIsSip sip w.log = true → PortKept w

/-- What stays while a SIP packet is being handled: its kind, and the port. -/
structure Undisturbed (w w' : Process) : Prop where
  kind : w.ext.isRtp = false → w'.ext.isRtp = false
  port : PortKept w → PortKept w'

/-- The invariant is kept and, with `strict`, a SIP packet that is being handled is not
disturbed. -/
def Routes (sip : ℕ → Bool) (ports : List ℤ) (strict : Prop) (w w' : Process) : Prop :=
  SipRouted sip ports w → SipRouted sip ports w' ∧ (strict → Undisturbed w w')

section Relation
variable {sip : ℕ → Bool} {ports : List ℤ} {strict : Prop} {w u v : Process}

theorem Undisturbed.refl (w : Process) : Undisturbed w w := ⟨id, id⟩

theorem Undisturbed.trans (h : Undisturbed w u) (h' : Undisturbed u v) : Undisturbed w v :=
  ⟨fun hw => h'.kind (h.kind hw), fun hw => h'.port (h.port hw)⟩

theorem Routes.trans (h : Routes sip ports strict w u) (h' : Routes sip ports strict u v) :
    Routes sip ports strict w v := by
  intro hw
  rcases h hw with ⟨hu, hwu⟩
  rcases h' hu with ⟨hv, huv⟩
  exact ⟨hv, fun hs => (hwu hs).trans (huv hs)⟩

theorem routes_of_steps (h : ReflTransGen (Routes sip ports strict) w v) :
    Routes sip ports strict w v := by
  induction h with
  | refl => exact fun hw => ⟨hw, fun _ => .refl w⟩
  | tail _ hstep ih => exact ih.trans hstep

theorem Routes.mono {strict' : Prop} (hs : strict' → strict) (h : Routes sip ports strict w v) :
    Routes sip ports strict' w v :=
  fun hw => ⟨(h hw).1, fun hs' => (h hw).2 (hs hs')⟩

/-- The flags of the kind may change where no SIP packet is being handled. -/
theorem routes_globals {g : Globals}
    (hg : (g.sipPorts, g.queue, g.outAddr.port) = (w.ext.sipPorts, w.ext.queue, w.ext.outAddr.port))
    (hk : strict → w.ext.isRtp = false → g.isRtp = false) :
    Routes sip ports strict w { w with ext := g } := by
  intro hw
  simp only [Prod.mk.injEq] at hg
  rcases hg with ⟨hports, hqueue, hport⟩
  have hkept : PortKept w → PortKept { w with ext := g } := fun hp => by
    unfold PortKept
    rw [hport]
    exact hp
  exact ⟨⟨hports.trans hw.sipPorts, fun p hp => hw.labelled p (hqueue ▸ hp), hw.sent,
    fun hl => hkept (hw.kept hl)⟩, fun hs => ⟨hk hs, hkept⟩⟩

theorem routes_permits : Permits (Routes sip ports strict) fun g =>
    (g.isRtp, g.sipPorts, g.queue, g.outAddr.port) := by
  intro w g hpart
  rcases Prod.mk.inj hpart with ⟨hrtp, hrest⟩
  exact routes_globals hrest fun _ hw => hrtp.trans hw

theorem routes_filter : Permits (Routes sip ports strict) Globals.beyondFilter :=
  routes_permits.weaken (fun g => (g.isRtp, g.sipPorts, g.queue, g.outAddr.port)) fun _ => rfl

/-- Events about no packet leave the last sent packet, or are messages of the library. -/
theorem lastIsSip_event {e : Event} {log : List Event} (he : ¬IsAboutPacket e)
    (h : lastIsSip sip (e :: log) = true) : lastIsSip sip log = true := by
  cases e with
  | handedOver _ => exact absurd trivial he
  | rtpMessage _ => exact absurd h Bool.false_ne_true
  | _ => exact h

theorem routes_event {e : Event} (he : ¬IsAboutPacket e) (l : Lib) :
    Routes sip ports strict w ⟨l, w.ext, e :: w.log⟩ := by
  refine fun hw => ⟨⟨hw.sipPorts, hw.labelled, fun id d hm => ?_, fun hl =>
    hw.kept (lastIsSip_event he hl)⟩, fun _ => ⟨id, id⟩⟩
  rcases List.mem_cons.mp hm with rfl | hm
  · exact absurd trivial he
  · exact hw.sent id d hm

theorem routes_ignores : Ignores (Routes sip ports strict) where
  lib _ _ _ := fun hw => ⟨⟨hw.sipPorts, hw.labelled, hw.sent, hw.kept⟩, fun _ => ⟨id, id⟩⟩
  complete _ := routes_event id _
  globals := routes_permits.weaken (fun c => (c.isRtp, c.sipPorts, c.queue, c.port)) fun _ => rfl
  apply _ := routes_globals rfl fun _ => id
  event w _ he := routes_event he w.lib

/-- A message that names a server puts the port back. -/
theorem setServer_routes (host : Host) (name : List Byte) :
    Within (Routes sip ports strict) (setServer host name) := by
  unfold setServer
  exact .modify fun w hw => ⟨⟨hw.sipPorts, hw.labelled, hw.sent, fun _ => .inr rfl⟩,
    fun _ => ⟨id, fun _ => .inr rfl⟩⟩

end Relation

/-! ## Sending -/

section Sending
variable {env : Env} {sip : ℕ → Bool} {ports : List ℤ} {strict : Prop} {packet : ℕ}
variable {buff buff' : Mem} {w w' : Process}

theorem rawEvents_port {a : SockAddr} {length : ℤ} {id : ℕ} {d : Datagram}
    (h : .rawMessage id d ∈ rawEvents packet buff a length) :
    id = packet ∧ a.port ≠ 0 ∧ d.port = a.port := by
  unfold rawEvents at h
  split_ifs at h with hnone
  · cases h
  · rw [List.mem_singleton] at h
    cases h
    exact ⟨rfl, fun hp => hnone (.inl hp), rfl⟩

@[simp] theorem lastIsSip_rawEvents (a : SockAddr) (length : ℤ) (log : List Event) :
    lastIsSip sip (rawEvents packet buff a length ++ log) = lastIsSip sip log := by
  unfold rawEvents
  split_ifs <;> rfl

/-- A packet is sent to the port of the destination, and is the last one then. -/
theorem forward_log (sip : ℕ → Bool) {bytesRead : ℤ}
    (h : (forward env packet buff bytesRead).run w = .ok (buff', w')) :
    lastIsSip sip w'.log = sip packet ∧ ∀ id d, .rawMessage id d ∈ w'.log → .rawMessage id d ∈ w.log ∨
      id = packet ∧ w.ext.outAddr.port ≠ 0 ∧ d.port = w.ext.outAddr.port := by
  rcases (forward_cases h).2 with hlog | ⟨b, n, hlog⟩
  · rw [hlog]
    refine ⟨by simp [lastIsSip], fun id d hm => ?_⟩
    simp only [List.mem_append, List.mem_cons, reduceCtorEq, false_or] at hm
    rcases hm with hm | hm
    · exact .inr (rawEvents_port hm)
    · exact .inl hm
  · rw [hlog]
    refine ⟨by simp [lastIsSip], fun id d hm => ?_⟩
    simp only [List.mem_append, List.mem_cons, reduceCtorEq, false_or] at hm
    rcases hm with (hm | hm) | hm
    · exact .inr (rawEvents_port hm)
    · exact .inr (rawEvents_port hm)
    · exact .inl hm

/-- A step that is taken while the port is in place. -/
def Forwards (sip : ℕ → Bool) (ports : List ℤ) (w w' : Process) : Prop :=
  PortKept w → Routes sip ports True w w'

theorem forwards_of_steps {u : Process} (h : ReflTransGen (Forwards sip ports) w u) :
    Forwards sip ports w u := by
  induction h with
  | refl => exact fun _ hw => ⟨hw, fun _ => .refl w⟩
  | tail _ hstep ih =>
    intro hp hw
    rcases ih hp hw with ⟨hu, hwu⟩
    rcases hstep ((hwu trivial).port hp) hu with ⟨hv, huv⟩
    exact ⟨hv, fun hs => (hwu hs).trans (huv hs)⟩

theorem routes_forwards {α : Type} {x : Op α} (h : Within (Routes sip ports True) x) :
    Within (Forwards sip ports) x := by
  refine h.mono fun w w' hstep => ?_
  exact fun _ => hstep

/-- An event of a packet while the port is in place. -/
theorem forwards_event {e : Event} (he : ∀ id d, e = .rawMessage id d → d.port = htonsInt 5060) :
    Forwards sip ports w { w with log := e :: w.log } := by
  refine fun hp hw => ⟨⟨hw.sipPorts, hw.labelled, fun id d hm hs => ?_, fun _ => hp⟩, fun _ => ⟨id, id⟩⟩
  rcases List.mem_cons.mp hm with heq | hm
  · exact he id d heq.symm
  · exact hw.sent id d hm hs

theorem sendRawMessage_forwards (length : ℤ) :
    Within (Forwards sip ports) (sendRawMessage packet buff length) := by
  refine .get_bind fun w => ?_
  dsimp only
  split_ifs with hport
  · exact Within.pure _ w
  · exact Within.pure _ w
  · refine .of_run_eq (run_bind_ok (observe_run _ _)) (.single fun hp => ?_) (Within.pure _ _)
    refine forwards_event (fun id d he => ?_) hp
    cases he
    exact hp.resolve_left hport

/-- A SIP packet is handed over while the port is in place, with handlers that send nothing. -/
theorem interruptedForward_forwards {interrupt : SipPoint → Op Unit}
    (hi : ∀ point, Within (Routes sip ports True) (interrupt point)) (bytesRead : ℤ) :
    Within (Forwards sip ports) (interruptedForward env interrupt packet buff bytesRead) := by
  have hR : Admits (Routes sip ports True) := routes_ignores.admits
  have hevent : ∀ e : Event, (∀ id d, e ≠ .rawMessage id d) → Within (Forwards sip ports) (observe e) := by
    intro e he
    exact .modify fun w => forwards_event fun id d heq => absurd heq (he id d)
  refine .bind (hevent _ nofun) fun _ => .bind (routes_forwards (hi _)) fun _ => .ite ?_ ?_
  · refine .bind .get fun w => .bind (routes_forwards (hR.setGlobals fun _ => rfl)) fun _ =>
      .bind (hevent _ nofun) fun _ => .bind (sendRawMessage_forwards _) fun _ =>
        .bind (routes_forwards (hi _)) fun _ => .bind (routes_forwards (hR.onLib nextTick_within)) fun _ => ?_
    exact .bind (sendRawMessage_forwards _) fun _ => .pure _
  · exact .bind (sendRawMessage_forwards _) fun _ => .pure _

/-- A media packet is forwarded to any port, and is the last one then. -/
theorem setAddress_forward_routes {bytesRead : ℤ} {f : Globals → Globals} (hs : ¬strict)
    (hf : ∀ g, (f g).beyondAddress = g.beyondAddress) (hp : sip packet = false) :
    Within (Routes sip ports strict) (do
      setGlobals f
      let _ ← forward env packet buff bytesRead) := by
  intro w r w' h
  rw [run_bind_ok (setGlobals_run _ _)] at h
  rcases run_bind_eq_ok h with ⟨buff', v, hv, hrest⟩
  cases hrest
  rcases (forward_cases hv).1 with ⟨t, n, -, hext⟩
  have hports := congrArg Globals.sipPorts (hf w.ext)
  have hqueue := congrArg Globals.queue (hf w.ext)
  rcases forward_log sip hv with ⟨hlast, hsent⟩
  refine .single fun hw => ⟨⟨by rw [hext]; exact hports.trans hw.sipPorts, fun p hm => ?_,
    fun id d hm hid => ?_, fun hl => ?_⟩, fun hst => absurd hst hs⟩
  · rw [hext] at hm
    exact hw.labelled p (hqueue ▸ hm)
  · rcases hsent id d hm with hm | ⟨rfl, -, -⟩
    · exact hw.sent id d hm hid
    · exact absurd (hid.symm.trans hp) (by decide)
  · exact absurd (hl.symm.trans (hlast.trans hp)) (by decide)

/-- A message of the library goes to the port of the media, and is the last one then. -/
theorem sendRtpMessage_routes (hs : ¬strict) (d : List Byte) :
    Within (Routes sip ports strict) (sendRtpMessage env d) := by
  have hR : Admits (Routes sip ports strict) := routes_ignores.admits
  refine .ite (.pure _) (.bind (hR.onLib nextTick_within) fun _ => .bind .get fun w =>
    .ite (.throw _) (.bind (hR.setGlobals fun _ => rfl) fun _ u r u' h => ?_))
  rw [run_bind_ok (setGlobals_run _ _), run_get_bind, run_bind_ok (observe_run _ _)] at h
  cases h
  refine .single fun hw => ⟨⟨hw.sipPorts, hw.labelled, fun id d hm => hw.sent id d ?_,
    fun hl => absurd hl Bool.false_ne_true⟩, fun hst => absurd hst hs⟩
  exact (List.mem_cons.mp hm).resolve_left (by simp)

end Sending

/-- Alarms at which no dummy is transmitted leave the port alone. -/
theorem quietAlarms_routes {env : Env} {sip : ℕ → Bool} {ports : List ℤ} {strict : Prop}
    {F : Functors Globals} (times : SipPoint → Process → ℕ) (point : SipPoint) :
    Within (Routes sip ports strict) ((quietAlarms env times).interrupt env F point) :=
  quietAlarms_within (fun _ _ hw => ⟨⟨hw.sipPorts, hw.labelled, hw.sent, hw.kept⟩, fun _ => ⟨id, id⟩⟩)
    times point

/-! ## Processing a packet -/

section Packets
variable {env : Env} {host : Host} {sip : ℕ → Bool} {ports : List ℤ} {F : Functors Globals}
variable {p : Packet} {w : Process}

section Interrupts
variable {interrupt : SipPoint → Op Unit} (hi : ∀ point, Within (Routes sip ports True) (interrupt point))
include hi

theorem interruptedForwardSip_forwards {packet : ℕ} {buff : Mem} (bytesRead : ℤ) (inward : Bool) :
    Within (Forwards sip ports) (interruptedForwardSip env interrupt packet buff bytesRead inward) := by
  have haddress : ∀ {f : Globals → Globals}, (∀ g, (f g).core = g.core) →
      Within (Forwards sip ports) (if inward = true then setGlobals f else pure ()) :=
    fun hf => routes_forwards (.ite (routes_ignores.admits.setGlobals hf) (.pure _))
  refine .bind (haddress fun _ => rfl) fun _ => .bind (routes_forwards (hi _)) fun _ => .bind .get fun g =>
    .bind (routes_forwards (hi _)) fun _ => .bind (interruptedForward_forwards hi _) fun buff' =>
      .bind (routes_forwards (hi _)) fun _ => ?_
  exact .bind (haddress fun _ => rfl) fun _ => .pure _

/-- A SIP packet that names a server, or finds the port in place, is sent to it. -/
theorem interruptedSip_routes (hr : Within (Routes sip ports True) F.receive) (hw : SipRouted sip ports w)
    {inward : Bool} (hkept : setsServer host (sipText p) inward = true ∨ PortKept w) :
    WithinAt (Routes sip ports True) w
      (interruptedSip env host interrupt F p.id p.mem p.bytes.length inward) := by
  have hR : Ignores (Routes sip ports True) := routes_ignores
  have hreceive : Within (Routes sip ports True) (interruptedFunctors interrupt F).receive :=
    .bind (hi _) fun _ => .bind hr fun _ => hi _
  have hstop := stopSession_silent env hR.toAllows hreceive
  have hsip := parseSip_within_of_free env host hR.admits.calls routes_filter
    (hR.admits.setGlobals fun _ => rfl) (setServer_routes host) hstop
    (parseBye_within_of_free env hR hstop (addAllRtpRules_within routes_filter.rules _ _)) (sipText p) inward
  refine WithinAt.bind (hi _ w) fun _ w₁ h₁ => ?_
  split_ifs
  · exact Within.throw _ w₁
  refine WithinAt.bind (hsip w₁) fun status u hu => ?_
  have hentered := routes_of_steps (hi _ w _ w₁ h₁) hw
  have hparsed := routes_of_steps (hsip w₁ status u hu) hentered.1
  have hport : PortKept u := by
    rcases hkept with hserver | hp
    · exact .inr (parseSip_port hserver hu)
    · exact (hparsed.2 trivial).port ((hentered.2 trivial).port hp)
  -- from here on the port is in place
  have hrest : Within (Forwards sip ports) (do
      interrupt .parsed
      let r ← (if (← get).ext.outAddr.port ≠ 0 ∧ 0 ≤ status then do
          let buff ← interruptedForwardSip env interrupt p.id p.mem p.bytes.length inward
          return (buff, transportAt p.mem + 8 - 8)
        else return (p.mem, transportAt p.mem + 8))
      captureSipHeader r.1
      interrupt .finished
      return (r.1, r.2)) := by
    refine .bind (routes_forwards (hi _)) fun _ => .bind .get fun v => .bind (.ite ?_ (.pure _)) fun r =>
      .bind (routes_forwards (hR.admits.setGlobals fun g => ?_)) fun _ =>
        .bind (routes_forwards (hi _)) fun _ => .pure _
    · exact .bind (interruptedForwardSip_forwards hi _ _) fun _ => .pure _
    · split_ifs <;> rfl
  intro r w' h
  exact .single (forwards_of_steps (hrest u r w' h) hport)

end Interrupts

section Media
variable {strict : Prop} (hs : ¬strict) (hF : Holds (Routes sip ports strict) F)
include hs hF

theorem inboundRtp_routes (hp : sip p.id = false) (offset : ℤ) (source : BitVec 16) :
    Within (Routes sip ports strict) (inboundRtp env F p.id p.mem p.bytes.length offset source) := by
  have hR : Ignores (Routes sip ports strict) := routes_ignores
  refine .bind (prepareInbound_within_of_free env hR.media hF _ _ _ _) fun r => .bind .get fun v => ?_
  exact setAddress_forward_routes hs (fun _ => rfl) hp

theorem outboundRtp_routes (hp : sip p.id = false) (offset : ℤ) :
    Within (Routes sip ports strict) (outboundRtp env F p.id p.mem p.bytes.length offset) := by
  have hR : Ignores (Routes sip ports strict) := routes_ignores
  refine .bind (hR.admits.setGlobals fun _ => rfl) fun _ => .bind .get fun _ => .ite (.pure _)
    (.bind (prepareOutbound_within_of_free env hR.media hF _ _ _) fun r => .bind ?_ fun _ => .pure _)
  refine .bind (hR.admits.setGlobals fun _ => rfl) fun _ => .bind .get fun _ =>
    .bind (captureHeader_within hR.admits.media.quiet _) fun _ => ?_
  exact setAddress_forward_routes hs (fun _ => rfl) hp

end Media

/-- A packet that names a server or follows another SIP packet. -/
theorem interruptedPacket_routes {interrupt : SipPoint → Op Unit}
    (hi : ∀ point, Within (Routes sip ports True) (interrupt point)) {strict : Prop}
    (hp : sip p.id = decide (IsSip ports p))
    (hsip : IsSip ports p → Within (Routes sip ports True) F.receive ∧
      (setsServer host (sipText p) (isInward host p) = true ∨ lastIsSip sip w.log = true))
    (hmedia : IsMedia w.ext p → ¬strict ∧ Holds (Routes sip ports strict) F) {r : Option ℤ}
    {w' : Process} (h : (interruptedPacket env host interrupt F p).run w = .ok (r, w')) :
    Routes sip ports strict w w' := by
  intro hw
  rw [interruptedPacket, run_get_bind] at h
  split_ifs at h with hs
  · have hs' : IsSip ports p := hw.sipPorts ▸ hs
    have henter : ∀ strict : Prop, Routes sip ports strict w (enterSip w p) := fun _ =>
      routes_globals rfl fun _ _ => rfl
    change (do
      let r ← interruptedSip env host interrupt F p.id p.mem p.bytes.length (isInward host p)
      afterSip env host F p r).run (enterSip w p) = _ at h
    rcases run_bind_eq_ok h with ⟨b, v, hv, hafter⟩
    have hentered : SipRouted sip ports (enterSip w p) := (henter True hw).1
    have hhandled := routes_of_steps (interruptedSip_routes hi (hsip hs').1 hentered
      ((hsip hs').2.imp id hentered.kept) b v hv)
    have hrtp : v.ext.isRtp = false := ((hhandled hentered).2 trivial).kind rfl
    rw [afterSip, run_get_bind, if_neg (by simp [hrtp])] at hafter
    cases hafter
    exact (henter strict).trans (hhandled.mono fun _ => trivial) hw
  by_cases hm : IsMedia w.ext p
  · rcases hmedia hm with ⟨hstrict, hF⟩
    have hnot : sip p.id = false := hp.trans (decide_eq_false (hw.sipPorts ▸ hs))
    have hbranch : WithinAt (Routes sip ports strict) w (processPacket env host F p) := by
      refine .of_run_eq (processPacket_media hm)
        (.single (routes_globals rfl fun hst => absurd hst hstrict)) ?_
      exact Within.ite (.bind (inboundRtp_routes hstrict hF hnot _ _) fun _ => .pure _)
        (outboundRtp_routes hstrict hF hnot _) _
    exact routes_of_steps (hbranch r w' h) hw
  · rcases dropPacket_run p w with ⟨_, isUdp, isSip, isRtp, hkind, hdrop⟩
    have heq := h.symm.trans ((processPacket_other hs hm).trans hdrop)
    cases heq
    refine routes_globals rfl (fun _ hr => ?_) hw
    exact Bool.eq_false_iff.mpr fun ht => absurd (hr.symm.trans (hkind ht)) (by decide)

end Packets

/-! ## Reading packets -/

section Reading
variable {env : Env} {host : Host} {sip : ℕ → Bool} {ports : List ℤ} {handled : List Packet}
variable {F : Functors Globals} {p : Packet} {w u w' : Process}

theorem any_isSip_iff : (handled.any fun q => decide (IsSip ports q)) = true ↔ InSip ports handled := by
  simp only [List.any_eq_true, decide_eq_true_eq]
  rfl

/-- What the condition says about a packet that is processed. -/
theorem reading_processed (hc : (sipInOrder host sip).reading handled w = true)
    (hnext : nextPacket w.ext = some p) (hp : isProcessed handled p = true) :
    (IsSip w.ext.sipPorts p →
      setsServer host (sipText p) (isInward host p) = true ∨ lastIsSip sip w.log = true) ∧
    (IsMedia w.ext p → ¬InSip w.ext.sipPorts handled) := by
  simp only [sipInOrder, hnext, hp, if_true, Bool.and_eq_true, Bool.or_eq_true, Bool.not_eq_true',
    decide_eq_false_iff_not] at hc
  rcases hc with ⟨hserver, hmedia⟩
  refine ⟨fun hs => ?_, fun hm hin => ?_⟩
  · rcases hserver with (hn | hset) | hlast
    · exact absurd hs hn
    · exact .inl hset
    · exact .inr hlast
  · rcases hmedia with hn | hn
    · exact absurd (any_isSip_iff.mpr hin) (by simp [hn])
    · exact hn hm

/-- What it says about a signalling message. -/
theorem reading_signal (hc : (sipInOrder host sip).reading handled w = true)
    (hnext : nextPacket w.ext = some p) (hp : isSignalingBuffer (p.mem.shift 28) = 1)
    (hin : InSip w.ext.sipPorts handled) : isAnswered w.lib.flags (signalType p) = false := by
  have hne : handled.isEmpty = false := by
    rcases hin with ⟨q, hq, -⟩
    rw [List.isEmpty_eq_false_iff]
    exact List.ne_nil_of_mem hq
  simp only [sipInOrder, hnext, isProcessed, hne, hp, ne_eq, not_true_eq_false, decide_false,
    Bool.or_self, Bool.false_eq_true, if_false, any_isSip_iff.mpr hin, Bool.not_true, Bool.false_or,
    Bool.not_eq_true'] at hc
  exact hc

/-- Reading takes a packet from the queue. -/
theorem routes_read {strict : Prop} (hext : u.ext = (dequeued w).ext) (hlog : u.log = w.log) :
    Routes sip ports strict w u := by
  have hrtp : u.ext.isRtp = w.ext.isRtp := by rw [hext]; rfl
  have hkept : PortKept w → PortKept u := by
    unfold PortKept
    rw [hext]
    exact id
  refine fun hw => ⟨⟨by rw [hext]; exact hw.sipPorts, fun p hp => ?_, by rw [hlog]; exact hw.sent,
    fun hl => hkept (hw.kept (by rwa [← hlog]))⟩, fun _ => ⟨fun hr => hrtp.trans hr, hkept⟩⟩
  rw [hext] at hp
  exact hw.labelled p (List.mem_of_mem_tail hp)

theorem mem_of_nextPacket (h : nextPacket w.ext = some p) : some p ∈ w.ext.queue := by
  unfold nextPacket at h
  split at h
  · rename_i q rest hq
    cases h
    rw [hq]
    exact List.mem_cons_self
  · cases h

/-- The functors while no SIP packet is being handled. -/
theorem holds_of_receive {strict strict' : Prop} (hs : ¬strict) (hsend : F.send = sendRtpMessage env)
    (hless : strict → strict') (hr : Within (Routes sip ports strict') F.receive) :
    Holds (Routes sip ports strict) F :=
  ⟨fun d => by rw [hsend]; exact sendRtpMessage_routes hs d, hr.mono fun _ _ h => h.mono hless⟩

theorem InSip.cons (h : InSip ports handled) : InSip ports (p :: handled) := by
  rcases h with ⟨q, hq, hs⟩
  exact ⟨q, List.mem_cons_of_mem _ hq, hs⟩

/-- A packet that is read under the condition and processed. -/
theorem processed_routes (times : SipPoint → Process → ℕ) (hc : (sipInOrder host sip).reading handled w = true)
    (hnext : nextPacket w.ext = some p) (hp : isProcessed handled p = true)
    (hext : u.ext = (dequeued w).ext) (hlog : u.log = w.log) (hsend : F.send = sendRtpMessage env)
    (hr : Within (Routes sip ports (InSip ports (p :: handled))) F.receive) {r : Option ℤ}
    (h : ((quietAlarms env times).process env host F p).run u = .ok (r, w')) :
    Routes sip ports (InSip ports handled) w w' := by
  intro hw
  rcases reading_processed hc hnext hp with ⟨hsip, hmedia⟩
  rw [hw.sipPorts] at hsip hmedia
  have hread : Routes sip ports (InSip ports handled) w u := routes_read hext hlog
  refine hread.trans (interruptedPacket_routes (quietAlarms_routes times)
    (hw.labelled p (mem_of_nextPacket hnext)) (fun hs => ⟨?_, ?_⟩)
    (fun hm => ?_) h) hw
  · exact hr.mono fun _ _ hstep => hstep.mono fun _ => ⟨p, List.mem_cons_self, hs⟩
  · rw [hlog]
    exact hsip hs
  · have hnone : ¬InSip ports handled := by
      rw [hext] at hm
      exact hmedia ⟨hm.length, hm.protocol, hm.notSip, hm.isRtp⟩
    exact ⟨hnone, holds_of_receive hnone hsend InSip.cons hr⟩

theorem receive_routes (times : SipPoint → Process → ℕ) (hc : (sipInOrder host sip).reading handled w = true)
    (hsend : F.send = sendRtpMessage env)
    (hr : Within (Routes sip ports (InSip ports ((nextPacket w.ext).toList ++ handled))) F.receive) :
    WithinAt (Routes sip ports (InSip ports handled)) w
      (receiveWith env F ((quietAlarms env times).process env host F)) := by
  intro _ w' h
  have hread : Routes sip ports (InSip ports handled) w (afterRead w) := routes_read rfl rfl
  rcases receiveWith_cases h with ⟨-, rfl⟩ | ⟨p, r, hnext, hsignal, hrun⟩ | ⟨p, r, hnext, hsignal, hrun⟩
  · exact .single hread
  · rw [hnext] at hr
    refine .single fun hw => ?_
    by_cases hin : InSip ports handled
    · have hquiet := reading_signal hc hnext hsignal (by rw [hw.sipPorts]; exact hin)
      have hR : Allows (Routes sip ports (InSip ports handled)) := routes_ignores.toAllows
      have hdata := processReceivedData_silent env hR _ hsignal (w := afterRead w) hquiet r w' hrun
      exact routes_of_steps (.head hread hdata) hw
    · have hF := holds_of_receive hin hsend InSip.cons hr
      have hdata := processReceivedData_within env routes_ignores.toAllows hF _ _ _ r w' hrun
      exact routes_of_steps (.head hread hdata) hw
  · rw [hnext] at hr
    exact .single (processed_routes times (u := afterRead w) hc hnext (by simp [isProcessed, hsignal]) rfl rfl
      hsend hr hrun)

theorem checkedFunctors_routes (times : SipPoint → Process → ℕ) (n : ℕ) (handled : List Packet) :
    Within (Routes sip ports (InSip ports handled)) (checkedFunctorsWith env (sipInOrder host sip)
      ((quietAlarms env times).process env host) n handled).receive :=
  checkedFunctors_receive (R := fun handled => Routes sip ports (InSip ports handled))
    (fun _ => routes_ignores.onLib (unusedMessage_within env))
    (fun _ _ _ hc hsend hr => receive_routes times hc hsend hr) n handled

end Reading

/-! ## Runs -/

section Runs
variable {env : Env} {host : Host} {sip : ℕ → Bool} {ports : List ℤ} {w w' : Process}
variable {times : SipPoint → Process → ℕ}

theorem checkedRound_routed {n : ℕ} (hc : (sipInOrder host sip).reading [] w = true)
    (h : (checkedRound env (sipInOrder host sip) ((quietAlarms env times).process env host) n).run w =
      .ok ((), w')) (hw : SipRouted sip ports w) : SipRouted sip ports w' := by
  have hhold : Routes sip ports False w (holding w) := routes_globals rfl fun hf => hf.elim
  rcases roundWith_cases h with ⟨-, rfl⟩ | ⟨p, r, hnext, hrun⟩
  · have hread : Routes sip ports False (holding w) (dequeued (holding w)) := routes_read rfl rfl
    exact (hread (hhold hw).1).1
  · exact (processed_routes times (w := holding w) hc hnext rfl rfl rfl (checkedFunctors_send _ _)
      (checkedFunctors_routes times n [p]) hrun (hhold hw).1).1

/-- A packet that comes into the queue is labelled by its kind. -/
theorem SipRouted.arrive {p : Packet} (hw : SipRouted sip ports w)
    (hp : (sipInOrder host sip).arrival w p = true) : sip p.id = decide (IsSip ports p) := by
  simpa [sipInOrder, hw.sipPorts] using hp

theorem sipRouted_step (h : CheckedStepWith env (sipInOrder host sip)
      ((quietAlarms env times).process env host) w w')
    (hw : SipRouted sip ports w) : SipRouted sip ports w' := by
  cases h with
  | arrive p hp =>
    refine ⟨hw.sipPorts, fun q hq => ?_, hw.sent, hw.kept⟩
    rcases List.mem_append.mp hq with hq | hq
    · exact hw.labelled q hq
    · rw [List.mem_singleton] at hq
      subst hq
      exact hw.arrive hp
  | round n _ hc h => exact checkedRound_routed hc h hw
  | again n q _ _ ha hc h =>
    have hrefill : SipRouted sip ports (refilled w q) := by
      refine ⟨hw.sipPorts, fun p hp => ?_, hw.sent, hw.kept⟩
      rcases List.mem_cons.mp hp with hp | hp
      · cases hp
        exact hw.arrive ha
      · exact hw.labelled p hp
    exact checkedRound_routed hc h hrefill
  | tick n h =>
    have hnone : ¬InSip ports [] := fun ⟨_, hq, _⟩ => absurd hq List.not_mem_nil
    have hF : Holds (Routes sip ports (InSip ports [])) (checkedFunctorsWith env (sipInOrder host sip)
        ((quietAlarms env times).process env host) n []) :=
      holds_of_receive hnone (checkedFunctors_send _ _) id (checkedFunctors_routes times n [])
    exact (routes_of_steps (timerFired_within env routes_ignores.toAllows hF.send w () w' h) hw).1

theorem sipRouted_run (h : ReflTransGen (CheckedStepWith env (sipInOrder host sip)
      ((quietAlarms env times).process env host)) w w')
    (hw : SipRouted sip ports w) : SipRouted sip ports w' := by
  induction h with
  | refl => exact hw
  | tail _ hstep ih => exact sipRouted_step hstep ih

theorem sipRouted_begin {option : ℤ} (h : Begins env option w) : SipRouted sip [5060] w := by
  rcases h.globals with ⟨hlog, ttl, hext⟩
  refine ⟨by rw [hext]; rfl, fun p hp => ?_, fun id d hm => ?_, fun _ => .inl (by rw [hext]; rfl)⟩
  · rw [hext] at hp
    exact absurd hp List.not_mem_nil
  · rw [hlog] at hm
    exact absurd hm List.not_mem_nil

/-- In every run in which a SIP packet that names no server follows another SIP packet, and
nothing is sent while a SIP packet is being handled, by a packet that is read meanwhile or by an
alarm, SIP goes to the port of SIP. -/
theorem sip_to_sip_port_of_inOrder {option : ℤ} {w₀ : Process} (h₀ : Begins env option w₀)
    (hrun : ReflTransGen (CheckedStepWith env (sipInOrder host sip)
      ((quietAlarms env times).process env host)) w₀ w) :
    ∀ id d, .rawMessage id d ∈ w.log → sip id = true → d.port = htonsInt 5060 :=
  (sipRouted_run hrun (sipRouted_begin h₀)).sent

end Runs

/-! ## Two runs -/

/-- A call is set up, a packet comes in on a media port, and then an answer that names no
server. -/
def answeredQueue : List (Option Packet) :=
  [some (sentSip 1 "INVITE sip:a@b Content-Type: application/sdp m=audio 4000 RTP/AVP "),
    some (udpPacket 2 5000 (signalBytes 13 (helloAckOptions 1464))), none,
    some (receivedSip 3 "SIP/2.0 401")]

/-- The ports to which the datagrams of a packet have gone. -/
def portsOf (id : ℕ) (log : List Event) : List (BitVec 16) :=
  log.filterMap fun
    | .rawMessage packet d => if packet = id then some d.port else none
    | _ => none

theorem mem_of_portsOf {id : ℕ} {log : List Event} {port : BitVec 16} (h : port ∈ portsOf id log) :
    ∃ d, .rawMessage id d ∈ log ∧ d.port = port := by
  rcases List.mem_filterMap.mp h with ⟨e, he, hport⟩
  cases e with
  | rawMessage packet d =>
    dsimp only at hport
    split_ifs at hport with hid
    · subst hid
      exact ⟨d, he, Option.some.inj hport⟩
  | _ => cases hport

/-- The INVITE goes to the port of SIP, the answer to that of the media. -/
theorem answer_to_media_port : ∃ w₀ w d, Begins (Env.constant 0) 0 w₀ ∧
    ReflTransGen (Step (Env.constant 0) localHost) w₀ w ∧ w.ext.sentInvite = true ∧
    IsSip w.ext.sipPorts (receivedSip 3 "SIP/2.0 401") ∧ .rawMessage 3 d ∈ w.log ∧
    d.port = htonsInt 4000 ∧ d.port ≠ htonsInt 5060 := by
  have hcheck : endsIn (session (Env.constant 0) localHost 0 answeredQueue 2 3) (atMain (Env.constant 0))
      (fun w => decide (w.ext.sentInvite = true ∧ w.ext.sipPorts = [5060] ∧
        htonsInt 4000 ∈ portsOf 3 w.log)) = true := by decide +kernel
  rcases endsIn_run hcheck with ⟨_, w, hrun, hw⟩
  rcases session_run hrun with ⟨w₀, h₀, hsteps⟩
  rcases of_decide_eq_true hw with ⟨hinvite, hports, hlog⟩
  rcases mem_of_portsOf hlog with ⟨d, hd, hport⟩
  refine ⟨w₀, w, d, h₀, hsteps, hinvite, ?_, hd, hport, ?_⟩
  · rw [hports]
    decide +kernel
  · rw [hport]
    decide

/-- Behind a REGISTER, which names the server, the answer goes to the port of SIP again, with an
alarm at every point. -/
theorem answer_to_sip_port : ∃ w₀ w d, Begins (Env.constant 0) 2 w₀ ∧
    ReflTransGen (CheckedStepWith (Env.constant 0) (sipInOrder localHost (· ≠ 2))
      ((quietAlarms (Env.constant 0) fun _ _ => 1).process (Env.constant 0) localHost)) w₀ w ∧
    .rawMessage 3 d ∈ w.log ∧ d.port = htonsInt 5060 := by
  have hcheck : endsIn (do
      startDiscovering (Env.constant 0) 2
      arriveAll (sipInOrder localHost (· ≠ 2))
        (answeredQueue.insertIdx 3 (some (sentSip 4 "REGISTER sip:b ")))
      checkedLoop (Env.constant 0) (sipInOrder localHost (· ≠ 2))
        ((quietAlarms (Env.constant 0) fun _ _ => 1).process (Env.constant 0) localHost) 2 4)
      (atMain (Env.constant 0)) (fun w => decide ((portsOf 3 w.log).length = 1)) = true := by
    decide +kernel
  rcases checked_session hcheck with ⟨w₀, w, h₀, hrun, hw⟩
  rcases List.length_eq_one_iff.mp (of_decide_eq_true hw) with ⟨port, hports⟩
  have hlog : port ∈ portsOf 3 w.log := hports ▸ List.mem_singleton_self port
  rcases mem_of_portsOf hlog with ⟨d, hd, -⟩
  exact ⟨w₀, w, d, h₀, hrun, hd, sip_to_sip_port_of_inOrder h₀ hrun 3 d hd rfl⟩

end Sqrkal.Discovery
