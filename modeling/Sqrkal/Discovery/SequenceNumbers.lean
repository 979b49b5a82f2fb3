import Sqrkal.Discovery.Dummies
import Sqrkal.Discovery.Fragments
import Sqrkal.Discovery.Oversize
import Sqrkal.Foundation.Serial

/-! # The sequence numbers of a session

Media packets carry the number their message took from the counter. A dummy carries the
number of the stored header, which is the counter's value at the last dummy and is brought
up to date only after it has been copied. So the numbers ascend as long as no dummy
follows a media packet.
-/

namespace Sqrkal.Discovery
open Foundation Mem Message Library Relation

/-- The number in the RTP header of a datagram. -/
def wireNumber (d : Datagram) : BitVec 16 :=
  let m := Mem.around (fun _ => 0) d.bytes
  htons (RTPHeader.load m (transportAt m + 8)).seq

/-- The numbers of the datagrams in a log, the latest first. A datagram right behind another
one of the raw socket is the second fragment of a packet and has no header of its own. -/
def wireNumbers : List Event → List (BitVec 16)
  | [] => []
  | .rtpMessage d :: log => wireNumber d :: wireNumbers log
  | .rawMessage _ _ :: .rawMessage packet d :: log => wireNumbers (.rawMessage packet d :: log)
  | .rawMessage _ d :: log => wireNumber d :: wireNumbers log
  | _ :: log => wireNumbers log

/-! ## Where the number is -/

/-- The header length and the number behind a header without options stay. -/
structure KeepsNumber (m' m : Mem) : Prop where
  first : m' 0 = m 0
  number : m'.load16 30 = m.load16 30

section Memory
variable {m m' m'' : Mem} {a : ℤ}

theorem KeepsNumber.trans (h : KeepsNumber m'' m') (h' : KeepsNumber m' m) : KeepsNumber m'' m :=
  ⟨h.first.trans h'.first, h.number.trans h'.number⟩

theorem KeepsNumber.ihl (h : KeepsNumber m' m) : ihl m' = ihl m := ihl_congr h.first

theorem write_keepsNumber {bs : List Byte} (h : 1 ≤ a ∧ a + bs.length ≤ 30) :
    KeepsNumber (m.write a bs) m :=
  ⟨write_apply_outside (.inl (by omega)), load16_write_of_disjoint (.inr (by omega))⟩

theorem store16_keepsNumber (x : BitVec 16) (h : 1 ≤ a ∧ a + 2 ≤ 30) :
    KeepsNumber (m.store16 a x) m :=
  write_keepsNumber h

theorem store32_keepsNumber (x : BitVec 32) (h : 1 ≤ a ∧ a + 4 ≤ 30) :
    KeepsNumber (m.store32 a x) m :=
  write_keepsNumber h

theorem formChecksums_keepsNumber (h : ihl m = 5) : KeepsNumber (formChecksums m) m := by
  have hfirst : AgreesOn (formChecksums m) m 0 1 := formChecksums_frame h (by omega) (by omega)
  have hnumber : AgreesOn (formChecksums m) m 30 32 := formChecksums_frame h (by omega) (by omega)
  exact ⟨hfirst 0 le_rfl (by omega), hnumber.load16 le_rfl le_rfl⟩

theorem firstFragment_keepsNumber (fragId : ℤ) (h : ihl m = 5) :
    KeepsNumber (firstFragment fragId m) m := by
  have hheader : KeepsNumber (firstHeader fragId m) m :=
    (store16_keepsNumber _ (by omega)).trans ((store16_keepsNumber _ (by omega)).trans
      (store16_keepsNumber _ (by omega)))
  exact (formChecksums_keepsNumber (ihl_firstHeader fragId h)).trans hheader

theorem addressOutbound_keepsNumber (g : Globals) (bytesRead : ℤ) :
    KeepsNumber (addressOutbound g m bytesRead 20) m := by
  unfold addressOutbound setTtl setTotLen setDaddr
  have httl : (1 : ℤ) ≤ 8 ∧ 8 + (([BitVec.ofInt 8 g.srppTtl] : List Byte).length : ℤ) ≤ 30 := by
    simp
  exact (write_keepsNumber httl).trans ((store16_keepsNumber _ (by omega)).trans
    ((store16_keepsNumber _ (by omega)).trans ((store32_keepsNumber _ (by omega)).trans
      (store16_keepsNumber _ (by omega)))))

/-- The number of a datagram without options in its header. -/
theorem wireNumber_read (addr : BitVec 32) (port : BitVec 16) {n : ℕ} (hn : 32 ≤ n) (h : ihl m = 5) :
    wireNumber ⟨addr, port, m.read 0 n⟩ = htons (m.load16 30) := by
  have hcopy : AgreesOn (Mem.around (fun _ => 0) (m.read 0 n)) m 0 n := write_read_agreesOn _ m n
  have hihl : ihl (Mem.around (fun _ => 0) (m.read 0 n)) = 5 := by
    rw [← h]
    unfold ihl
    rw [hcopy 0 le_rfl (by omega)]
  unfold wireNumber transportAt
  dsimp only
  rw [hihl]
  exact congrArg htons (hcopy.load16 (by decide) (by omega))

/-- A word of a copied header. -/
theorem load16_write_read {k : ℕ} (hk : 4 ≤ k) :
    (m.write 28 (m'.read a k)).load16 30 = m'.load16 (a + 2) := by
  have hin : ∀ i : ℕ, i < k → (m.write 28 (m'.read a k)) (28 + i) = m' (a + i) := by
    intro i hi
    rw [write_apply_inside m 28 (m'.read a k) i (by rwa [read_length]), read_getElem]
  have htwo := hin 2 (by omega)
  have hthree := hin 3 (by omega)
  unfold load16
  rw [add_assoc]
  exact congrArg₂ (· ++ ·) hthree htwo

theorem srppToNetwork_number {msg : SRPPMessage} {mem wire : Mem} {filler : Fin 15 → BitVec 32}
    {key : BitVec 32} (hcc : msg.srppHeader.cc = 0#4)
    (h : srppToNetwork msg mem filler key = .ok wire) : wire.load16 2 = htons msg.srppHeader.seq := by
  rcases srppToNetwork_isWire msg mem filler key hcc with ⟨_, hwire, hi⟩
  cases h.symm.trans hwire
  rcases hi.header with ⟨csrc, hheader⟩
  exact congrArg (fun h : SRPPHeader => h.seq) hheader

end Memory

/-! ## The steps of a session -/

/-- A session is on, with a stored media header that has no options, and a port that can
be sent to. -/
structure InSession (g : Globals) : Prop where
  applied : g.applySrpp = true
  header : g.rtpHdset = 2
  plain : ihl g.rtpHeader = 5
  port : htonsInt g.outport ≠ 0

instance (g : Globals) : Decidable (InSession g) :=
  decidable_of_iff (g.applySrpp = true ∧ g.rtpHdset = 2 ∧ ihl g.rtpHeader = 5 ∧ htonsInt g.outport ≠ 0)
    ⟨fun h => ⟨h.1, h.2.1, h.2.2.1, h.2.2.2⟩, fun h => ⟨h.applied, h.header, h.plain, h.port⟩⟩

/-- A dummy, drawn and sent as the algorithms of the timers do. -/
def sendDummy (env : Env) (F : Functors Globals) : Op ℤ := do
  let msg ← onLib (drawDummy env)
  sendMessage env F msg

/-- What is sent next: a media packet, or a dummy. -/
abbrev Sending := Option Packet

/-- A media packet of the local endpoint is processed, or a dummy is sent, where a condition
allows it. In between clocks, timers and draws may move on. -/
inductive SendStep (env : Env) (host : Host) (allowed : Process → Sending → Bool) (w : Process) :
    Process → Prop
  | media (n : ℕ) (p : Packet) {r : Option ℤ} {w' : Process} (ha : allowed w (some p) = true)
      (hp : IsMedia w.ext p) (hout : ¬IsInward host p)
      (h : (processPacket env host (functors env host n) p).run w = .ok (r, w')) :
      SendStep env host allowed w w'
  | dummy (n : ℕ) {r : ℤ} {w' : Process} (ha : allowed w none = true)
      (hb : w.lib.padding.isBurstPadding = true)
      (h : (sendDummy env (functors env host n)).run w = .ok (r, w')) : SendStep env host allowed w w'
  | idle (l : Lib) (hp : l.padding = w.lib.padding) (hf : l.flags = w.lib.flags)
      (hc : l.lastSequenceNo = w.lib.lastSequenceNo) :
      SendStep env host allowed w { w with lib := l }

/-- The stored header has the number of the counter, or is not put in front of messages. -/
def IsCurrent (w : Process) : Prop :=
  (RTPHeader.load w.ext.rtpHeader 28).version = 0 ∨
    (RTPHeader.load w.ext.rtpHeader 28).seq = htonsInt w.lib.lastSequenceNo

instance (w : Process) : Decidable (IsCurrent w) := inferInstanceAs (Decidable (_ ∨ _))

/-- Media packets have no options in their header, and a dummy is sent only while the
stored header is current. -/
def keepsStep (w : Process) : Sending → Bool
  | some p => decide (ihl p.mem = 5)
  | none => decide (IsCurrent w)

/-! ## Media packets -/

section Forwarding
variable {env : Env} {packet : ℕ} {buff buff' : Mem} {w w' : Process}

theorem rawEvents_eq (buff : Mem) {a : SockAddr} {length : ℤ} (ha : a.port ≠ 0) (hl : 0 < length) :
    rawEvents packet buff a length = [.rawMessage packet ⟨a.addr, a.port, buff.read 0 length.toNat⟩] :=
  if_neg (not_or.mpr ⟨ha, not_le.mpr hl⟩)

/-- A forwarded packet counts once, with the number in its header. -/
theorem forward_numbers {bytesRead : ℤ} (h : (forward env packet buff bytesRead).run w = .ok (buff', w'))
    (hihl : ihl buff = 5) (hport : w.ext.outAddr.port ≠ 0) (hn : 32 ≤ bytesRead) : ∃ events,
    w'.log = events ++ w.log ∧
      ∀ log, wireNumbers (events ++ log) = htons (buff.load16 30) :: wireNumbers log := by
  rcases (forward_cases h).2 with hlog | ⟨b, n, hlog⟩
  · have hkeeps := formChecksums_keepsNumber hihl
    have hnumber := wireNumber_read w.ext.outAddr.addr w.ext.outAddr.port
      (show 32 ≤ bytesRead.toNat by omega) (hkeeps.ihl.trans hihl)
    rw [hkeeps.number] at hnumber
    rw [rawEvents_eq _ hport (by omega)] at hlog
    refine ⟨[_, .handedOver packet], hlog, fun log => ?_⟩
    rw [← hnumber]
    rfl
  · have hkeeps := firstFragment_keepsNumber w.ext.fragId hihl
    have hnumber := wireNumber_read w.ext.outAddr.addr w.ext.outAddr.port
      (show 32 ≤ ipMtu.toNat by decide) (hkeeps.ihl.trans hihl)
    rw [hkeeps.number] at hnumber
    refine ⟨rawEvents packet b w.ext.outAddr n ++
      rawEvents packet (firstFragment w.ext.fragId buff) w.ext.outAddr ipMtu ++
      [.fragmented packet, .handedOver packet], ?_, fun log => ?_⟩
    · rw [hlog, List.append_assoc _ _ w.log]
      rfl
    · rw [← hnumber, rawEvents_eq (firstFragment w.ext.fragId buff) hport (by decide)]
      -- the second fragment may be empty, and does not count otherwise
      unfold rawEvents
      split_ifs <;> rfl

/-- The header of the media stream is stored once. -/
theorem captureHeader_set (buff : Mem) (h : w.ext.rtpHdset = 2) :
    (captureHeader buff).run w = .ok ((), w) := by
  rw [captureHeader, setGlobals_run, if_neg (by rw [h]; decide)]

theorem deliverOutbound_numbers {bytesRead : ℤ}
    (h : (deliverOutbound env packet buff bytesRead 20).run w = .ok ((), w')) (hs : InSession w.ext)
    (hihl : ihl buff = 5) (hn : 32 ≤ bytesRead) :
    (∃ t, w'.lib = { w.lib with tick := t }) ∧ InSession w'.ext ∧ ∃ events, w'.log = events ++ w.log ∧
      ∀ log, wireNumbers (events ++ log) = htons (buff.load16 30) :: wireNumbers log := by
  let u : Process :=
    { w with ext := { w.ext with outputPacketSizes := w.ext.outputPacketSizes ++ [bytesRead] } }
  have hcapture := captureHeader_set (w := u) (addressOutbound u.ext buff bytesRead 20) hs.header
  rw [deliverOutbound, run_bind_ok (setGlobals_run _ _), run_get_bind, run_bind_ok hcapture,
    run_bind_ok (setGlobals_run _ _)] at h
  rcases run_bind_eq_ok h with ⟨buff', v, hv, hrest⟩
  cases hrest
  rcases (forward_cases hv).1 with ⟨t, n, hlib, hext⟩
  have hkeeps : KeepsNumber (addressOutbound u.ext buff bytesRead 20) buff :=
    addressOutbound_keepsNumber _ _
  rcases forward_numbers hv (hkeeps.ihl.trans hihl) hs.port hn with ⟨events, hlog, hnumbers⟩
  rw [hkeeps.number] at hnumbers
  exact ⟨⟨t, hlib⟩, by rw [hext]; exact ⟨hs.applied, hs.header, hs.plain, hs.port⟩, events, hlog,
    hnumbers⟩

end Forwarding

/-- One datagram has been sent, with the number `value`, and the counter is one above it. -/
structure Emitted (value : ℤ) (w w' : Process) : Prop where
  log : ∃ events, w'.log = events ++ w.log ∧
    ∀ log, wireNumbers (events ++ log) = BitVec.ofInt 16 value :: wireNumbers log
  counter : w'.lib.lastSequenceNo = value + 1
  session : InSession w'.ext

section Media
variable {env : Env} {host : Host} {F : Functors Globals} {w w' : Process} {p : Packet}

theorem convertOutboundOp_numbers {packet : ℕ} {buff buff' : Mem} {bytesRead n : ℤ}
    (h : (convertOutboundOp env packet buff bytesRead).run w = .ok ((buff', n), w'))
    (hihl : ihl buff = 5) : ihl buff' = 5 ∧ 32 ≤ n ∧
      htons (buff'.load16 30) = BitVec.ofInt 16 (w.lib.lastSequenceNo + 1) ∧
      w'.lib.lastSequenceNo = w.lib.lastSequenceNo + 2 ∧ w'.log = .converted packet :: w.log ∧
      (InSession w.ext → InSession w'.ext) := by
  obtain ⟨rtp, data, msg, l, ssrc, key, srppBuff, filler, -, hmsg, hplace, rfl⟩ :=
    convertOutboundOp_ok h
  rcases rtpToSrppOp_counter env hmsg with ⟨hseq, hcc, hcounter⟩
  rcases placeOutbound_ok hplace with ⟨wire, hwire, rfl, rfl⟩
  have hsize := srppSize_ge msg
  refine ⟨?_, by omega, ?_, hcounter, rfl, fun hs => ⟨hs.applied, hs.header, hs.plain, hs.port⟩⟩
  · rw [← hihl]
    exact ihl_congr (write_apply_outside (.inl (by decide)))
  · rw [load16_write_read (by omega), zero_add, srppToNetwork_number hcc hwire, htons_htons, hseq]

/-- A media packet is sent with the number behind the counter, or not at all while the
other endpoint is not known. -/
theorem media_emitted (hp : IsMedia w.ext p) (hout : ¬IsInward host p) (hs : InSession w.ext)
    (hihl : ihl p.mem = 5) {r : Option ℤ} (h : (processPacket env host F p).run w = .ok (r, w')) :
    (w'.log = w.log ∧ w'.lib = w.lib ∧ InSession w'.ext) ∨
      Emitted (w.lib.lastSequenceNo + 1) w w' := by
  rw [processPacket_media hp, if_neg hout, transportAt_of_ihl hihl, outboundRtp, run_bind_ok (setGlobals_run _ _),
    run_get_bind] at h
  dsimp only at h
  split_ifs at h
  · cases h
    exact .inl ⟨rfl, rfl, hs.applied, hs.header, hs.plain, hs.port⟩
  rcases run_bind_eq_ok h with ⟨⟨buff, n⟩, u, hprep, hrest⟩
  rcases run_bind_eq_ok hrest with ⟨_, v, hdel, hrest⟩
  cases hrest
  let entered : Process :=
    { enterRtp w p with ext := { (enterRtp w p).ext with rtpSrc := saddr p.mem } }
  have hon : entered.ext.applySrpp = true := hs.applied
  rw [prepareOutbound_applied _ _ _ hon] at hprep
  obtain ⟨hplain, hn, hnumber, hcounter, hlog, hsession⟩ := convertOutboundOp_numbers hprep hihl
  have hu : InSession u.ext := hsession ⟨hs.applied, hs.header, hs.plain, hs.port⟩
  obtain ⟨⟨t, hlib⟩, hv, events, hevents, hnumbers⟩ := deliverOutbound_numbers hdel hu hplain hn
  rw [hnumber] at hnumbers
  refine .inr ⟨⟨events ++ [.converted p.id], ?_, fun log => ?_⟩, ?_, hv⟩
  · rw [hevents, hlog, List.append_assoc]
    rfl
  · rw [List.append_assoc, hnumbers]
    rfl
  · rw [hlib]
    change u.lib.lastSequenceNo = _
    rw [hcounter, add_assoc]
    rfl

end Media

/-! ## Dummies -/

section Datagram
variable (g : Globals) (junk : Mem) (d : List Byte)

/-- The datagram around a message has the first byte of the stored header. -/
theorem wrapMessage_first : wrapMessage g junk d 0 = g.rtpHeader 0 := by
  let m := junk.write 0 (g.rtpHeader.read 0 28)
  have hcopy : m 0 = g.rtpHeader 0 := write_read_agreesOn junk g.rtpHeader 28 0 le_rfl (by decide)
  have httl : (1 : ℤ) ≤ 8 ∧ 8 + (([BitVec.ofInt 8 g.srppTtl] : List Byte).length : ℤ) ≤ 30 := by
    simp
  have hfields : KeepsNumber (setTtl (setTotLen ((setSaddr (setDaddr ((m.store16 20
      (htonsInt g.inport)).store16 22 (htonsInt g.outport)) g.rtpDest) g.rtpSrc).store16 24
      (htonsInt (d.length + 8))) (htonsInt (d.length + 28))) g.srppTtl) m :=
    (write_keepsNumber httl).trans ((store16_keepsNumber _ (by omega)).trans
      ((store16_keepsNumber _ (by omega)).trans ((store32_keepsNumber _ (by omega)).trans
        ((store32_keepsNumber _ (by omega)).trans ((store16_keepsNumber _ (by omega)).trans
          (store16_keepsNumber _ (by omega)))))))
  exact (write_apply_outside (.inl (by decide))).trans (hfields.first.trans hcopy)

theorem rewriteHeader_first (m : Mem) : rewriteHeader g d m 0 = m 0 := by
  unfold rewriteHeader
  dsimp only
  split_ifs
  · rw [write_apply_outside (.inl (by decide)), write_apply_outside (.inl (by decide))]
  · rw [write_apply_outside (.inl (by decide))]
  · rfl

/-- A message gets the number of the stored header. -/
theorem rewriteHeader_number (m : Mem) (hset : g.rtpHdset = 2)
    (hv : (RTPHeader.load g.rtpHeader 28).version ≠ 0) :
    (rewriteHeader g d m).load16 30 = (RTPHeader.load g.rtpHeader 28).seq := by
  have hstored : (m.write 28 (g.rtpHeader.read 28 12)).load16 30 = g.rtpHeader.load16 (28 + 2) :=
    load16_write_read (by decide)
  unfold rewriteHeader
  rw [if_pos ⟨hset, hv⟩]
  dsimp only
  split_ifs
  · rw [load16_write_of_disjoint (.inr (by simp))]
    exact hstored
  · exact hstored

variable {g d} in
theorem datagram_number (hs : InSession g) (addr : BitVec 32) (port : BitVec 16) (hd : 4 ≤ d.length) :
    wireNumber ⟨addr, port, datagramBytes g junk d⟩ =
      htons ((rewriteHeader g d (wrapMessage g junk d)).load16 30) := by
  have hihl : ihl (rewriteHeader g d (wrapMessage g junk d)) = 5 := by
    rw [← hs.plain]
    exact ihl_congr ((rewriteHeader_first g d _).trans (wrapMessage_first g junk d))
  have hkeeps := formChecksums_keepsNumber hihl
  rw [← hkeeps.number]
  exact wireNumber_read addr port (by omega) (hkeeps.ihl.trans hihl)

end Datagram

section Dummy
variable {env : Env} {host : Host} {key : BitVec 32} {n : ℕ} {w w' : Process}

/-- A dummy with the counter's number in its own header, sent while the stored header is
current. -/
theorem current_number {msg : SRPPMessage} {mem wire : Mem} {filler : Fin 15 → BitVec 32}
    {g : Globals} {c : ℤ} (junk : Mem) (hs : InSession g) (hcc : msg.srppHeader.cc = 0#4)
    (hseq : msg.srppHeader.seq = BitVec.ofInt 16 c)
    (hwire : srppToNetwork msg mem filler key = .ok wire)
    (hc : (RTPHeader.load g.rtpHeader 28).version = 0 ∨
      (RTPHeader.load g.rtpHeader 28).seq = htonsInt c) (addr : BitVec 32) (port : BitVec 16) :
    wireNumber ⟨addr, port, datagramBytes g junk (wire.read 0 (srppSize msg).toNat)⟩ =
      BitVec.ofInt 16 c := by
  have hsize := srppSize_ge msg
  rw [datagram_number junk hs addr port (by rw [read_length]; omega)]
  by_cases hv : (RTPHeader.load g.rtpHeader 28).version = 0
  · rw [rewriteHeader, if_neg fun h => h.2 hv]
    have hown : (wrapMessage g junk (wire.read 0 (srppSize msg).toNat)).load16 30 =
        wire.load16 (0 + 2) := load16_write_read (by omega)
    rw [hown, zero_add, srppToNetwork_number hcc hwire, htons_htons, hseq]
  · rw [rewriteHeader_number g _ _ hs.header hv, hc.resolve_left hv]
    exact htons_htons _

theorem advanceHeader_session {c : ℤ} {g : Globals} (hs : InSession g) (a : SockAddr) :
    InSession { advanceHeader c g with outAddr := a } := by
  refine ⟨hs.applied, hs.header, ?_, hs.port⟩
  rw [← hs.plain]
  apply ihl_congr
  unfold advanceHeader store32 store16
  dsimp only
  split_ifs
  · rw [write_apply_outside (.inl (by decide)), write_apply_outside (.inl (by decide)),
      write_apply_outside (.inl (by decide))]
  · rw [write_apply_outside (.inl (by decide)), write_apply_outside (.inl (by decide))]

/-- Afterwards the stored header has the number of the counter. -/
theorem advanceHeader_seq (c : ℤ) (g : Globals) :
    (RTPHeader.load (advanceHeader c g).rtpHeader 28).seq = htonsInt c := by
  change (advanceHeader c g).rtpHeader.load16 30 = _
  unfold advanceHeader store32
  dsimp only
  split_ifs
  · rw [load16_write_of_disjoint (.inl (by decide)), load16_write_of_disjoint (.inl (by decide)),
      load16_store16]
  · rw [load16_write_of_disjoint (.inl (by decide)), load16_store16]

/-- A message with a number, sent while the stored header has the same one. -/
theorem sendMessage_numbers {msg : SRPPMessage} {c r : ℤ} (hs : InSession w.ext)
    (hcc : msg.srppHeader.cc = 0#4) (hseq : msg.srppHeader.seq = BitVec.ofInt 16 c)
    (hpayload : msg.encryptedPart.originalPayload ≠ [])
    (hc : (RTPHeader.load w.ext.rtpHeader 28).version = 0 ∨
      (RTPHeader.load w.ext.rtpHeader 28).seq = htonsInt c)
    (h : (sendMessage env (functors env host n) msg).run w = .ok (r, w')) :
    (∃ d, w'.log = .rtpMessage d :: w.log ∧ wireNumber d = BitVec.ofInt 16 c) ∧
      w'.lib.lastSequenceNo = w.lib.lastSequenceNo ∧ InSession w'.ext ∧ IsCurrent w' := by
  obtain ⟨wire, hwire, -⟩ := srppToNetwork_isWire msg (env.junk w.lib.tick) (env.filler w.lib.tick)
    (if isSignalingMessage msg = 1 then 0 else w.lib.session.encryptionKey) hcc
  have hsize := srppSize_ge msg
  rw [sendMessage_run env _ hpayload hwire, functors_send] at h
  rcases run_bind_eq_ok h with ⟨_, u, hsend, hrest⟩
  cases hrest
  obtain ⟨addr, port, hlog, hlib, hext⟩ := sendRtpMessage_ok env
    (List.ne_nil_of_length_pos (by rw [read_length]; omega)) hsend
  have hcounter : u.lib.lastSequenceNo = w.lib.lastSequenceNo := by
    rw [hlib]
    rfl
  refine ⟨⟨_, hlog, current_number _ hs hcc hseq hwire hc addr port⟩, hcounter, ?_, .inr ?_⟩
  · change InSession u.ext
    rw [hext]
    exact advanceHeader_session hs _
  · change (RTPHeader.load u.ext.rtpHeader 28).seq = htonsInt u.lib.lastSequenceNo
    rw [hext, hcounter]
    exact advanceHeader_seq _ _

/-- A dummy is sent with the number of the counter, and leaves the stored header current. -/
theorem dummy_emitted (hw : InBurst key w) (hs : InSession w.ext) (hc : IsCurrent w) {r : ℤ}
    (h : (sendDummy env (functors env host n)).run w = .ok (r, w')) :
    Emitted w.lib.lastSequenceNo w w' ∧ IsCurrent w' := by
  have hentry := hw.drawn env
  have hpayload : (encryptSrpp (drawnDummy env w.lib) key
      (env.rand (w.lib.tick + 2))).encryptedPart.originalPayload ≠ [] := fun hnil =>
    hentry.payload (List.map_eq_nil_iff.mp hnil)
  have hcc : (encryptSrpp (drawnDummy env w.lib) key (env.rand (w.lib.tick + 2))).srppHeader.cc = 0#4 :=
    hentry.cc
  rw [sendDummy, run_bind_ok (hw.drawDummy_run env)] at h
  obtain ⟨⟨d, hlog, hnumber⟩, hcounter, hsession, hcurrent⟩ :=
    sendMessage_numbers (w := afterDraw env w) (c := w.lib.lastSequenceNo) hs hcc rfl hpayload hc h
  refine ⟨⟨⟨[.rtpMessage d], hlog, fun log => ?_⟩, hcounter, hsession⟩, hcurrent⟩
  exact congrArg (· :: wireNumbers log) hnumber

/-- So does `start_SRPP`, which takes the counter from the stored header. -/
theorem startSrpp_isCurrent {F : Functors Globals} {status : ℤ}
    (h : (startSrpp env F).run w = .ok (status, w')) (hs : 0 ≤ status) : IsCurrent w' := by
  right
  rw [(startSrpp_succeeds env h hs).2, htonsInt, BitVec.ofInt_natCast, BitVec.ofNat_toNat,
    BitVec.setWidth_eq, htons_htons]

end Dummy

/-! ## Runs -/

section Runs
variable {env : Env} {host : Host} {option : ℤ} {allowed : Process → Sending → Bool} {w w' : Process}

theorem SendStep.effects (h : SendStep env host allowed w w') : ReflTransGen Effect w w' := by
  cases h with
  | media n p _ _ _ h => exact processPacket_effects env host (functors_hold env host n) p w _ w' h
  | dummy n _ _ h =>
    have hdummy : Within Effect (sendDummy env (functors env host n)) :=
      .bind (effect_allows.onLib (drawDummy_within env)) fun msg =>
        sendMessage_within env effect_allows (functors_hold env host n).send msg
    exact hdummy w _ w' h
  | idle l hp hf _ => exact .single (.lib l (.quiet hp (by rw [hf])))

theorem Passed.step (h : Passed env option w) (hstep : SendStep env host allowed w w') :
    Passed env option w' := by
  rcases h with ⟨w₀, h₀, hsteps⟩
  exact ⟨w₀, h₀, hsteps.trans hstep.effects⟩

/-- In burst mode a dummy can be drawn in every state. -/
theorem Passed.inBurst (h : Passed env option w) (hb : w.lib.padding.isBurstPadding = true) :
    InBurst w.lib.session.encryptionKey w := by
  rcases h with ⟨w₀, h₀, hsteps⟩
  have hpadding : HasMode option w.lib.padding ∧ (option ≠ 3 → Drawable w.lib.padding) := by
    clear hb
    induction hsteps with
    | refl => exact h₀.padding
    | tail _ hstep ih =>
      have hp := effect_padding hstep
      exact ⟨ih.1.congr hp.sameModes, fun ho => (ih.2 ho).step hp⟩
  have hoption : option = 2 := of_decide_eq_true (hpadding.1.burst.symm.trans hb)
  exact ⟨hpadding.2 (by omega), hb, rfl⟩

/-- The numbers sent since a state are those of a counter in steps of one or two, and the
counter is one above the latest. -/
structure Numbered (w₀ w : Process) : Prop where
  session : InSession w.ext
  values : ∃ events values, w.log = events ++ w₀.log ∧
    wireNumbers events = values.map (BitVec.ofInt 16) ∧ CountsUp 2 values ∧
    ∀ value ∈ values.head?, w.lib.lastSequenceNo = value + 1

theorem Numbered.emitted {w₀ : Process} {value : ℤ} (h : Numbered w₀ w) (he : Emitted value w w')
    (hlo : w.lib.lastSequenceNo ≤ value) (hhi : value ≤ w.lib.lastSequenceNo + 1) :
    Numbered w₀ w' := by
  rcases h.values with ⟨events, values, hlog, hnumbers, hcounts, hlast⟩
  rcases he.log with ⟨new, hnew, hnumber⟩
  refine ⟨he.session, new ++ events, value :: values, by rw [hnew, hlog, List.append_assoc], ?_, ?_, ?_⟩
  · rw [hnumber, hnumbers]
    rfl
  · refine List.isChain_cons.mpr ⟨fun old hold => ?_, hcounts⟩
    have hold := hlast old hold
    omega
  · rintro _ ⟨⟩
    exact he.counter

/-- A step that sends nothing and leaves the counter. -/
theorem Numbered.quiet {w₀ : Process} (h : Numbered w₀ w) (hlog : w'.log = w.log)
    (hc : w'.lib.lastSequenceNo = w.lib.lastSequenceNo) (hs : InSession w'.ext) : Numbered w₀ w' := by
  rcases h.values with ⟨events, values, hevents, hnumbers, hcounts, hlast⟩
  exact ⟨hs, events, values, hlog.trans hevents, hnumbers, hcounts, by rw [hc]; exact hlast⟩

theorem numbered_step {w₀ : Process} (hstep : SendStep env host keepsStep w w')
    (hp : Passed env option w) (h : Numbered w₀ w) : Numbered w₀ w' := by
  cases hstep with
  | media n p ha hm hout hrun =>
    rcases media_emitted hm hout h.session (of_decide_eq_true ha) hrun with ⟨hlog, hlib, hs⟩ | he
    · exact h.quiet hlog (by rw [hlib]) hs
    · exact h.emitted he (by omega) le_rfl
  | dummy n ha hb hrun =>
    exact h.emitted (dummy_emitted (hp.inBurst hb) h.session (of_decide_eq_true ha) hrun).1 le_rfl
      (by omega)
  | idle l _ _ hc => exact h.quiet rfl hc h.session

theorem numbered_run {w₀ : Process} (hrun : ReflTransGen (SendStep env host keepsStep) w₀ w)
    (hp : Passed env option w₀) (hs : InSession w₀.ext) : Passed env option w ∧ Numbered w₀ w := by
  induction hrun with
  | refl => exact ⟨hp, hs, [], [], rfl, rfl, .nil, fun _ hv => by cases hv⟩
  | tail _ hstep ih => exact ⟨ih.1.step hstep, numbered_step hstep ih.1 ih.2⟩

/-- In every session in which a dummy is sent only while the stored header has the number of
the counter, the numbers of the datagrams ascend, and none comes twice in 2^15. -/
theorem numbers_ascend_of_keepsStep {w₀ : Process} (hp : Passed env option w₀)
    (hs : InSession w₀.ext) (hrun : ReflTransGen (SendStep env host keepsStep) w₀ w) :
    ∃ events, w.log = events ++ w₀.log ∧ Ascends (wireNumbers events) ∧
      DistinctWithin (2 ^ 15) (wireNumbers events) := by
  rcases (numbered_run hrun hp hs).2.values with ⟨events, values, hlog, hnumbers, hcounts, -⟩
  refine ⟨events, hlog, ?_, ?_⟩
  · rw [hnumbers]
    exact hcounts.ascends (by decide)
  · rw [hnumbers]
    exact hcounts.distinctWithin (by decide) (by decide)

end Runs

/-! ## Two sessions -/

section Evaluation
variable (env : Env) (host : Host) (allowed : Process → Sending → Bool)

/-- Media packets and dummies are sent one after the other, where the condition allows it. -/
def sendAll : List Sending → Op Unit
  | [] => pure ()
  | some p :: rest => do
    let w ← get
    if allowed w (some p) = true ∧ IsMedia w.ext p ∧ ¬IsInward host p then
      let _ ← processPacket env host (functors env host 0) p
      sendAll rest
    else throw .exited
  | none :: rest => do
    let w ← get
    if allowed w none = true ∧ w.lib.padding.isBurstPadding = true then
      let _ ← sendDummy env (functors env host 0)
      sendAll rest
    else throw .exited

variable {env host allowed}

theorem sendAll_run {sendings : List Sending} {w w' : Process}
    (h : (sendAll env host allowed sendings).run w = .ok ((), w')) :
    ReflTransGen (SendStep env host allowed) w w' := by
  induction sendings generalizing w with
  | nil =>
    cases h
    exact .refl
  | cons sending rest ih =>
    cases sending with
    | some p =>
      rw [sendAll, run_get_bind] at h
      split_ifs at h with hc
      · rcases run_bind_eq_ok h with ⟨r, u, hu, hrest⟩
        exact .head (.media 0 p hc.1 hc.2.1 hc.2.2 hu) (ih hrest)
      · cases h
    | none =>
      rw [sendAll, run_get_bind] at h
      split_ifs at h with hc
      · rcases run_bind_eq_ok h with ⟨r, u, hu, hrest⟩
        exact .head (.dummy 0 hc.1 hc.2 hu) (ih hrest)
      · cases h

theorem SendStep.log_suffix {w w' : Process} (h : ReflTransGen (SendStep env host allowed) w w') :
    w.log <:+ w'.log := by
  induction h with
  | refl => exact List.suffix_rfl
  | tail _ hstep ih => exact ih.trans (effects_log_suffix hstep.effects)

/-- What has been added to a log. -/
def eventsSince (w₀ w : Process) : List Event := w.log.take (w.log.length - w₀.log.length)

theorem eventsSince_eq {w₀ w : Process} {events : List Event} (h : w.log = events ++ w₀.log) :
    eventsSince w₀ w = events := by
  unfold eventsSince
  rw [h, List.length_append, Nat.add_sub_cancel_right, List.take_left]

end Evaluation

/-- A call in burst mode, in which the numbers sent meet a check. -/
def sendsNumbers (allowed : Process → Sending → Bool) (sendings : List Sending)
    (check : List (BitVec 16) → Bool) (w₀ : Process) : Bool :=
  decide (InSession w₀.ext) && endsIn (sendAll (Env.constant 0) localHost allowed sendings) w₀
    fun w => check (wireNumbers (eventsSince w₀ w))

theorem sends_numbers {allowed : Process → Sending → Bool} {sendings : List Sending}
    {check : List (BitVec 16) → Bool}
    (h : endsIn (session (Env.constant 0) localHost 2 announcedCall 1 2) (atMain (Env.constant 0))
      (sendsNumbers allowed sendings check) = true) :
    ∃ w₀ w, Reached (Env.constant 0) localHost 2 w₀ ∧ InSession w₀.ext ∧
      ReflTransGen (SendStep (Env.constant 0) localHost allowed) w₀ w ∧
      w.log = eventsSince w₀ w ++ w₀.log ∧ check (wireNumbers (eventsSince w₀ w)) = true := by
  rcases endsIn_run h with ⟨_, w₀, hsession, hcheck⟩
  rw [sendsNumbers, Bool.and_eq_true] at hcheck
  rcases endsIn_run hcheck.2 with ⟨_, w, hrun, hnumbers⟩
  have hsteps := sendAll_run hrun
  rcases SendStep.log_suffix hsteps with ⟨events, hevents⟩
  refine ⟨w₀, w, session_run hsession, of_decide_eq_true hcheck.1, hsteps, ?_, hnumbers⟩
  rw [eventsSince_eq hevents.symm, hevents]

/-- A dummy behind a media packet has a smaller number. -/
theorem dummy_behind_media : ∃ w₀ w events, Reached (Env.constant 0) localHost 2 w₀ ∧
    InSession w₀.ext ∧ ReflTransGen (SendStep (Env.constant 0) localHost fun _ _ => true) w₀ w ∧
    w.log = events ++ w₀.log ∧ (wireNumbers events).length = 2 ∧ ¬Ascends (wireNumbers events) := by
  have hcheck : endsIn (session (Env.constant 0) localHost 2 announcedCall 1 2) (atMain (Env.constant 0))
      (sendsNumbers (fun _ _ => true) [some (spokenPacket [1]), none]
        fun ns => decide (ns.length = 2 ∧ ¬Ascends ns)) = true := by
    decide +kernel
  rcases sends_numbers hcheck with ⟨w₀, w, hreached, hs, hrun, hlog, hn⟩
  exact ⟨w₀, w, _, hreached, hs, hrun, hlog, of_decide_eq_true hn⟩

/-- Dummies before media packets have ascending numbers. -/
theorem numbers_ascend_dummies_first : ∃ w₀ w events, Reached (Env.constant 0) localHost 2 w₀ ∧
    InSession w₀.ext ∧ ReflTransGen (SendStep (Env.constant 0) localHost keepsStep) w₀ w ∧
    w.log = events ++ w₀.log ∧ (wireNumbers events).length = 4 ∧ Ascends (wireNumbers events) ∧
    DistinctWithin (2 ^ 15) (wireNumbers events) := by
  have hcheck : endsIn (session (Env.constant 0) localHost 2 announcedCall 1 2) (atMain (Env.constant 0))
      (sendsNumbers keepsStep [none, none, some (spokenPacket [1]), some (spokenPacket [2])]
        fun ns => decide (ns.length = 4)) = true := by
    decide +kernel
  rcases sends_numbers hcheck with ⟨w₀, w, hreached, hs, hrun, hlog, hn⟩
  rcases numbers_ascend_of_keepsStep hreached.passed hs hrun with ⟨events, hevents, hascends, hdistinct⟩
  rw [eventsSince_eq hevents] at hn
  exact ⟨w₀, w, events, hreached, hs, hrun, hevents, of_decide_eq_true hn, hascends, hdistinct⟩

end Sqrkal.Discovery
