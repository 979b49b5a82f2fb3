import Sqrkal.Discovery.Actions
import Sqrkal.Discovery.FullBandwidth
import Sqrkal.Discovery.SequenceNumbers

/-! # The headers of the messages of the library

The first media packet leaves its headers behind, and every message of the library is sent
under them. Only number, clock and source move on. The clock gains twenty with each message,
but from the second one on the bytes of the source stand the other way round.
-/

namespace Sqrkal.Discovery
open Foundation Mem Message Library Relation

/-! ## A datagram under the stored header -/

/-- The stored header is one of a media packet without IP options. -/
structure HasTemplate (g : Globals) : Prop where
  stored : g.rtpHdset = 2
  plain : ihl g.rtpHeader = 5
  version : (RTPHeader.load g.rtpHeader 28).version ≠ 0

section Datagram
variable (g : Globals) (junk : Mem) (d : List Byte)

/-- What `send_rtp_message` leaves of the stored IP header. -/
theorem wrapMessage_agreesOn {lo hi : ℤ} (h2 : hi ≤ 2 ∨ 4 ≤ lo) (h8 : hi ≤ 8 ∨ 9 ≤ lo) (h0 : 0 ≤ lo)
    (h10 : hi ≤ 10) : AgreesOn (wrapMessage g junk d) g.rtpHeader lo hi := by
  have hcopy : AgreesOn (junk.write 0 (g.rtpHeader.read 0 28)) g.rtpHeader lo hi :=
    (write_read_agreesOn _ _ _).mono h0 (by push_cast; omega)
  exact (write_agreesOn (.inl (by omega))).trans ((write_agreesOn (by simp; omega)).trans
    ((store16_agreesOn _ _ _ (by omega)).trans ((store16_agreesOn _ _ _ (by omega)).trans
      ((store32_agreesOn _ _ _ (by omega)).trans ((store32_agreesOn _ _ _ (by omega)).trans
        ((store16_agreesOn _ _ _ (by omega)).trans ((store16_agreesOn _ _ _ (by omega)).trans hcopy)))))))

variable {g} (hg : HasTemplate g)
include hg

/-- The media header is written over that of the message, but for its payload type. -/
theorem rewriteHeader_template (m : Mem) {lo hi : ℤ} (h28 : 28 ≤ lo) (h29 : hi ≤ 29 ∨ 30 ≤ lo)
    (h40 : hi ≤ 40) : AgreesOn (rewriteHeader g d m) g.rtpHeader lo hi := by
  have hcopy : AgreesOn (m.write 28 (g.rtpHeader.read 28 12)) g.rtpHeader lo hi := by
    intro a ha hb
    obtain ⟨i, rfl⟩ : ∃ i : ℕ, a = 28 + i := ⟨(a - 28).toNat, by omega⟩
    rw [write_apply_inside _ _ _ i (by simp; omega), read_getElem]
  unfold rewriteHeader
  rw [if_pos ⟨hg.stored, hg.version⟩]
  dsimp only
  split_ifs
  · exact (write_agreesOn (by simpa using h29)).trans hcopy
  · exact hcopy

theorem ihl_message : ihl (rewriteHeader g d (wrapMessage g junk d)) = 5 := by
  rw [← hg.plain]
  exact ihl_congr ((rewriteHeader_first g d _).trans (wrapMessage_first g junk d))

/-- The part of a datagram that checksums leave alone. -/
theorem datagramBytes_agreesOn {lo hi : ℤ} (h0 : 0 ≤ lo) (hip : hi ≤ 10 ∨ 12 ≤ lo)
    (hudp : hi ≤ 26 ∨ 28 ≤ lo) (hlen : hi ≤ d.length + 28) :
    AgreesOn (datagram (datagramBytes g junk d)) (rewriteHeader g d (wrapMessage g junk d)) lo hi :=
  ((datagram_agreesOn _ _).mono h0 (by push_cast; omega)).trans
    (formChecksums_frame (ihl_message junk d hg) hip hudp)

theorem datagramBytes_media {lo hi : ℤ} (h28 : 28 ≤ lo) (h29 : hi ≤ 29 ∨ 30 ≤ lo) (h40 : hi ≤ 40)
    (hlen : hi ≤ d.length + 28) : AgreesOn (datagram (datagramBytes g junk d)) g.rtpHeader lo hi :=
  (datagramBytes_agreesOn junk d hg (by omega) (.inr (by omega)) (.inr h28) hlen).trans
    (rewriteHeader_template d hg _ h28 h29 h40)

theorem datagramBytes_network {lo hi : ℤ} (h2 : hi ≤ 2 ∨ 4 ≤ lo) (h8 : hi ≤ 8 ∨ 9 ≤ lo) (h0 : 0 ≤ lo)
    (h10 : hi ≤ 10) : AgreesOn (datagram (datagramBytes g junk d)) g.rtpHeader lo hi := by
  have hwrapped : AgreesOn (rewriteHeader g d (wrapMessage g junk d)) (wrapMessage g junk d) lo hi := by
    unfold rewriteHeader
    dsimp only
    split_ifs
    · exact (write_agreesOn (.inl (by omega))).trans (write_agreesOn (.inl (by omega)))
    · exact write_agreesOn (.inl (by omega))
    · exact .refl
  exact (datagramBytes_agreesOn junk d hg h0 (.inl h10) (.inl (by omega)) (by omega)).trans
    (hwrapped.trans (wrapMessage_agreesOn g junk d h2 h8 h0 h10))

/-- The payload type is the stored one, or that of signalling. -/
theorem datagramBytes_type (hlen : 2 ≤ d.length) :
    datagram (datagramBytes g junk d) 29 = g.rtpHeader 29 ∨
      datagram (datagramBytes g junk d) 29 = 0x7c := by
  have hag := datagramBytes_agreesOn junk d hg (show (0 : ℤ) ≤ 29 by decide) (.inr (by decide))
    (.inr (by decide)) (show (30 : ℤ) ≤ d.length + 28 by omega)
  have hcopy : ∀ m : Mem, (m.write 28 (g.rtpHeader.read 28 12)) 29 = g.rtpHeader 29 := fun m => by
    rw [show (29 : ℤ) = 28 + (1 : ℕ) by decide, write_apply_inside _ _ _ 1 (by simp), read_getElem]
  rw [hag 29 le_rfl (by decide), rewriteHeader, if_pos ⟨hg.stored, hg.version⟩]
  split_ifs
  · exact .inr (write_singleton _ _ _)
  · exact .inl (hcopy _)

end Datagram

/-! ## The stored header over a run -/

/-- The messages of the library in a log, the first one first. -/
def messagesIn (log : List Event) : List Datagram :=
  (log.filterMap fun
    | .rtpMessage d => some d
    | _ => none).reverse

@[simp] theorem messagesIn_message (d : Datagram) (log : List Event) :
    messagesIn (.rtpMessage d :: log) = messagesIn log ++ [d] := by
  simp [messagesIn]

theorem messagesIn_cons {e : Event} (h : isRtpMessage e = false) (log : List Event) :
    messagesIn (e :: log) = messagesIn log := by
  cases e with
  | rtpMessage _ => cases h
  | _ => rfl

@[simp] theorem messagesIn_rawEvents (packet : ℕ) (m : Mem) (a : SockAddr) (n : ℤ) (log : List Event) :
    messagesIn (rawEvents packet m a n ++ log) = messagesIn log := by
  unfold rawEvents
  split_ifs <;> rfl

/-- The clock of the stored media header. -/
def clock (m : Mem) : BitVec 32 := htonl (m.load32 32)

/-- The source in a media header, as it lies in memory. -/
def sourceWord (m : Mem) : BitVec 32 := m.load32 36

section Advance
variable (c : ℤ) (g : Globals)

theorem advanceHeader_agreesOn {hi : ℤ} (h : hi ≤ 30) :
    AgreesOn (advanceHeader c g).rtpHeader g.rtpHeader 0 hi := by
  have hnumber : AgreesOn ((g.rtpHeader.store16 30 (htonsInt c)).store32 32
      (htonl (htonl ((g.rtpHeader.store16 30 (htonsInt c)).load32 32) + 20))) g.rtpHeader 0 hi :=
    (store32_agreesOn _ _ _ (.inl (by omega))).trans (store16_agreesOn _ _ _ (.inl h))
  unfold advanceHeader
  dsimp only
  split_ifs
  · exact (store32_agreesOn _ _ _ (.inl (by omega))).trans hnumber
  · exact hnumber

theorem advanceHeader_clock : clock (advanceHeader c g).rtpHeader = clock g.rtpHeader + 20 := by
  have hold : (g.rtpHeader.store16 30 (htonsInt c)).load32 32 = g.rtpHeader.load32 32 :=
    load32_write_of_disjoint (.inr (by simp))
  have hnew : ((g.rtpHeader.store16 30 (htonsInt c)).store32 32
      (htonl (htonl ((g.rtpHeader.store16 30 (htonsInt c)).load32 32) + 20))).load32 32 =
      htonl (htonl (g.rtpHeader.load32 32) + 20) := by
    rw [load32_store32, hold]
  unfold clock advanceHeader
  dsimp only
  split_ifs
  · rw [store32, load32_write_of_disjoint (.inl (by decide)), hnew, htonl_htonl]
  · rw [hnew, htonl_htonl]

/-- The source is written in network order once more. -/
theorem advanceHeader_source (h : g.ssrcValue ≠ 0) :
    sourceWord (advanceHeader c g).rtpHeader = htonl g.ssrcValue := by
  unfold sourceWord advanceHeader
  dsimp only
  rw [if_pos h, load32_store32]

@[simp] theorem advanceHeader_ssrcValue : (advanceHeader c g).ssrcValue = g.ssrcValue := rfl

@[simp] theorem advanceHeader_rtpHdset : (advanceHeader c g).rtpHdset = g.rtpHdset := rfl

end Advance

/-- What a datagram shows of the header that was stored when it was sent, the `k`-th of a run
that began with the header `m` and the source `ssrc`. -/
structure Wears (m : Mem) (ssrc : BitVec 32) (k : ℕ) (d : Mem) : Prop where
  network : AgreesOn d m 0 2 ∧ AgreesOn d m 4 8 ∧ d 9 = m 9
  version : d 28 = m 28
  type : d 29 = m 29 ∨ d 29 = 0x7c
  time : clock d = clock m + BitVec.ofNat 32 (20 * k)
  origin : sourceWord d = if k = 0 then sourceWord m else htonl ssrc

/-- Since a state with a stored header, that header has only moved on, and the messages sent
have been its. -/
structure Templated (w₀ w : Process) (ds : List Datagram) : Prop where
  stored : w.ext.rtpHdset = 2
  fixed : AgreesOn w.ext.rtpHeader w₀.ext.rtpHeader 0 30
  ssrc : w.ext.ssrcValue = w₀.ext.ssrcValue
  time : clock w.ext.rtpHeader = clock w₀.ext.rtpHeader + BitVec.ofNat 32 (20 * ds.length)
  origin : sourceWord w.ext.rtpHeader =
    if ds = [] then sourceWord w₀.ext.rtpHeader else htonl w₀.ext.ssrcValue
  log : messagesIn w.log = messagesIn w₀.log ++ ds
  worn : ∀ k d, ds[k]? = some d → 40 ≤ d.bytes.length →
    Wears w₀.ext.rtpHeader w₀.ext.ssrcValue k (datagram d.bytes)

section Steps
variable {w₀ w w' : Process} {ds : List Datagram}

theorem HasTemplate.congr {g g' : Globals} (hg : HasTemplate g) (hstored : g'.rtpHdset = 2)
    (hag : AgreesOn g'.rtpHeader g.rtpHeader 0 30) : HasTemplate g' := by
  refine ⟨hstored, ?_, ?_⟩
  · rw [← hg.plain]
    exact ihl_congr (hag 0 le_rfl (by decide))
  · have hversion := hg.version
    simp only [RTPHeader.load] at hversion ⊢
    rwa [hag 28 (by decide) (by decide)]

/-- The next message of a run wears the header that is stored now. -/
theorem Templated.next (h : Templated w₀ w ds) (ht : HasTemplate w₀.ext) (junk : Mem) {d : List Byte}
    (hd : 12 ≤ d.length) : Wears w₀.ext.rtpHeader w₀.ext.ssrcValue ds.length
      (datagram (datagramBytes w.ext junk d)) := by
  have hg : HasTemplate w.ext := ht.congr h.stored h.fixed
  have hfixed : ∀ {a : ℤ}, 0 ≤ a → a < 30 → w.ext.rtpHeader a = w₀.ext.rtpHeader a := fun h0 h30 =>
    h.fixed _ h0 h30
  have hmedia : AgreesOn (datagram (datagramBytes w.ext junk d)) w.ext.rtpHeader 30 40 :=
    datagramBytes_media junk d hg (by decide) (.inr le_rfl) le_rfl (by omega)
  refine ⟨⟨?_, ?_, ?_⟩, ?_, ?_, ?_, ?_⟩
  · exact (datagramBytes_network junk d hg (.inl le_rfl) (.inl (by decide)) le_rfl (by decide)).trans
      (h.fixed.mono le_rfl (by decide))
  · exact (datagramBytes_network junk d hg (.inr le_rfl) (.inl le_rfl) (by decide) (by decide)).trans
      (h.fixed.mono (by decide) (by decide))
  · have hag : AgreesOn (datagram (datagramBytes w.ext junk d)) w.ext.rtpHeader 9 10 :=
      datagramBytes_network junk d hg (.inr (by decide)) (.inr le_rfl) (by decide) le_rfl
    exact (hag 9 le_rfl (by decide)).trans (hfixed (by decide) (by decide))
  · have hag : AgreesOn (datagram (datagramBytes w.ext junk d)) w.ext.rtpHeader 28 29 :=
      datagramBytes_media junk d hg le_rfl (.inl le_rfl) (by decide) (by omega)
    exact (hag 28 le_rfl (by decide)).trans (hfixed (by decide) (by decide))
  · rw [← hfixed (a := 29) (by decide) (by decide)]
    exact datagramBytes_type junk d hg (by omega)
  · rw [← h.time]
    exact congrArg htonl (hmedia.load32 (by decide) (by decide))
  · rw [sourceWord, hmedia.load32 (by decide) (by decide)]
    simpa only [List.length_eq_zero_iff, sourceWord] using h.origin

theorem Templated.congr (h : Templated w₀ w ds) (hface : w'.ext.face = w.ext.face)
    (hlog : messagesIn w'.log = messagesIn w.log) : Templated w₀ w' ds := by
  have hstored : w'.ext.rtpHdset = w.ext.rtpHdset := congrArg Face.rtpHdset hface
  have hheader : w'.ext.rtpHeader = w.ext.rtpHeader := congrArg Face.rtpHeader hface
  have hssrc : w'.ext.ssrcValue = w.ext.ssrcValue := congrArg Face.ssrcValue hface
  constructor
  · rw [hstored, h.stored]
  · rw [hheader]
    exact h.fixed
  · rw [hssrc, h.ssrc]
  · rw [hheader, h.time]
  · rw [hheader, h.origin]
  · rw [hlog, h.log]
  · exact h.worn

theorem messagesIn_note {e : Event} (h : IsNote e) (log : List Event) :
    messagesIn (e :: log) = messagesIn log :=
  messagesIn_cons (by cases e <;> first | rfl | exact h.elim) log

/-- One action sends at most one message, under the header that is stored. -/
theorem Templated.action (ht : HasTemplate w₀.ext) (hs : w₀.ext.ssrcValue ≠ 0)
    (h : Templated w₀ w ds) (hstep : Action w w') : ∃ ds', Templated w₀ w' ds' := by
  cases hstep with
  | lib l _ => exact ⟨ds, h.congr rfl rfl⟩
  | complete => exact ⟨ds, h.congr rfl rfl⟩
  | hidden g hg => exact ⟨ds, h.congr hg rfl⟩
  | note e he => exact ⟨ds, h.congr rfl (messagesIn_note he _)⟩
  | sipHeader buff h0 =>
    rw [h.stored] at h0
    cases h0
  | mediaHeader buff h0 =>
    rw [h.stored] at h0
    rcases h0 with h0 | h0 <;> cases h0
  | source ssrc h0 =>
    rw [h.ssrc] at h0
    exact absurd h0 hs
  | whole packet buff n _ _ => exact ⟨ds, h.congr rfl (messagesIn_rawEvents _ _ _ _ _)⟩
  | split packet buff junk bytesLeft _ =>
    refine ⟨ds, h.stored, h.fixed, h.ssrc, h.time, h.origin, ?_, h.worn⟩
    rw [sentSplit, List.append_assoc, messagesIn_rawEvents, messagesIn_rawEvents,
      messagesIn_cons rfl, messagesIn_cons rfl, h.log]
  | message a junk d hd _ =>
    refine ⟨ds ++ [⟨a.addr, a.port, datagramBytes w.ext junk d⟩], h.stored, ?_, h.ssrc, ?_, ?_, ?_,
      fun k d' hk hlen => ?_⟩
    · exact (advanceHeader_agreesOn _ _ le_rfl).trans h.fixed
    · change clock (advanceHeader w.lib.lastSequenceNo w.ext).rtpHeader = _
      rw [advanceHeader_clock, h.time, List.length_append, List.length_singleton, mul_add,
        BitVec.ofNat_add, BitVec.add_assoc]
      rfl
    · rw [if_neg (by simp), ← h.ssrc]
      exact advanceHeader_source _ _ (h.ssrc ▸ hs)
    · rw [sentMessage, messagesIn_message, h.log, List.append_assoc]
    · by_cases hlt : k < ds.length
      · rw [List.getElem?_append_left hlt] at hk
        exact h.worn k d' hk hlen
      · have hlast : k = ds.length := by
          have hk' := (List.getElem?_eq_some_iff.mp hk).1
          simp only [List.length_append, List.length_singleton] at hk'
          omega
        subst hlast
        rw [List.getElem?_concat_length] at hk
        cases hk
        rw [datagramBytes, read_length] at hlen
        exact h.next ht junk (by omega)
  | _ => exact ⟨ds, h.stored, h.fixed, h.ssrc, h.time, h.origin, h.log, h.worn⟩

end Steps

/-! ## Runs -/

section Runs
variable {env : Env} {host : Host} {w₀ w : Process}

/-- The part of the stored header that does not count or tell the time is that of a media packet. -/
def KeepsCapture (w₀ w : Process) : Prop :=
  w.ext.rtpHdset = 2 ∧ AgreesOn w.ext.rtpHeader w₀.ext.rtpHeader 0 30

theorem KeepsCapture.action {w' : Process} (hstep : Action w w') (h : KeepsCapture w₀ w) :
    KeepsCapture w₀ w' := by
  cases hstep with
  | hidden g hg =>
    have hstored : g.rtpHdset = w.ext.rtpHdset := congrArg Face.rtpHdset hg
    have hheader : g.rtpHeader = w.ext.rtpHeader := congrArg Face.rtpHeader hg
    exact ⟨hstored.trans h.1, hheader ▸ h.2⟩
  | sipHeader buff h0 =>
    rw [h.1] at h0
    cases h0
  | mediaHeader buff h0 =>
    rw [h.1] at h0
    rcases h0 with h0 | h0 <;> cases h0
  | message a junk d _ _ => exact ⟨h.1, (advanceHeader_agreesOn _ _ le_rfl).trans h.2⟩
  | _ => exact h

/-- The headers of the first media packet are stored for good, whatever its version: in no run is
any of their first thirty bytes ever replaced. -/
theorem header_captured_once (hset : w₀.ext.rtpHdset = 2) (hrun : ReflTransGen (Step env host) w₀ w) :
    w.ext.rtpHdset = 2 ∧ AgreesOn w.ext.rtpHeader w₀.ext.rtpHeader 0 30 :=
  run_keeps (I := KeepsCapture w₀) (fun _ _ hstep h => KeepsCapture.action hstep h) hrun ⟨hset, .refl⟩

/-- A media packet of version 0 comes first, and one of version 2 does not replace it. -/
theorem version_zero_kept : ∃ w₀ w, Reached (Env.constant 0) localHost 0 w₀ ∧
    ReflTransGen (Step (Env.constant 0) localHost) w₀ w ∧ .handedOver 3 ∈ w.log ∧
    (RTPHeader.load (udpPacket 3 5000 (List.replicate 120 0x80)).mem 28).version = 2 ∧
    (RTPHeader.load w.ext.rtpHeader 28).version = 0 := by
  let later := some (udpPacket 3 5000 (List.replicate 120 0x80))
  have hcheck : endsIn (session (Env.constant 0) localHost 0
      [some (udpPacket 1 5000 (List.replicate 120 0)),
        some (udpPacket 2 5000 (signalBytes 13 (helloAckOptions 1464)))] 1 1) (atMain (Env.constant 0))
      (fun w => decide (w.ext.rtpHdset = 2 ∧ (RTPHeader.load w.ext.rtpHeader 28).version = 0) &&
        endsIn (discoverLoop (Env.constant 0) localHost 1 1)
          { w with ext := { w.ext with queue := w.ext.queue ++ [later] } }
          fun w => decide (.handedOver 3 ∈ w.log)) = true := by decide +kernel
  rcases endsIn_run hcheck with ⟨_, w₀, hsession, h₀⟩
  rw [Bool.and_eq_true, decide_eq_true_eq] at h₀
  rcases endsIn_run h₀.2 with ⟨_, w, hloop, hw⟩
  have hrun : ReflTransGen (Step (Env.constant 0) localHost) w₀ w :=
    (arrivals w₀ [later]).trans (discoverLoop_run 1 1 hloop)
  have hkept := (header_captured_once h₀.1.1 hrun).2
  have hversion := h₀.1.2
  refine ⟨w₀, w, session_run hsession, hrun, of_decide_eq_true hw, by decide +kernel, ?_⟩
  simp only [RTPHeader.load] at hversion ⊢
  rw [hkept 28 (by decide) (by decide), hversion]

/-- From a state with the header of a media stream on, the messages of the library wear that
header, in any run whose ticks come between actions: the `k`-th, counted from zero, has a clock
twenty times `k` later, and the source only of the first is that of the stream. -/
theorem messages_wear_header (ht : HasTemplate w₀.ext) (hs : w₀.ext.ssrcValue ≠ 0)
    (hrun : ReflTransGen (Interleaved env host) w₀ w) : ∃ ds, messagesIn w.log = messagesIn w₀.log ++ ds ∧
      ∀ k d, ds[k]? = some d → 40 ≤ d.bytes.length →
        Wears w₀.ext.rtpHeader w₀.ext.ssrcValue k (datagram d.bytes) := by
  have hstart : Templated w₀ w₀ [] := by
    refine ⟨ht.stored, .refl, rfl, ?_, rfl, (List.append_nil _).symm, nofun⟩
    simp
  have hend : ∃ ds, Templated w₀ w ds :=
    interleaved_keeps (I := fun t => ∃ ds, Templated w₀ t ds)
      (fun _ _ hstep h => h.elim fun _ h => h.action ht hs hstep) hrun ⟨[], hstart⟩
  rcases hend with ⟨ds, h⟩
  exact ⟨ds, h.log, h.worn⟩

/-- The timer fires a number of times. -/
def ticks (env : Env) (host : Host) : ℕ → Op Unit
  | 0 => pure ()
  | n + 1 => do
    timerFired env (functors env host 0)
    ticks env host n

theorem ticks_run {n : ℕ} {w w' : Process} (h : (ticks env host n).run w = .ok ((), w')) :
    ReflTransGen (Step env host) w w' := by
  induction n generalizing w with
  | zero =>
    cases h
    exact .refl
  | succ n ih =>
    rcases run_bind_eq_ok h with ⟨_, u, htick, hrest⟩
    exact .head (.tick 0 htick) (ih hrest)

/-- Two dummies of one burst, behind a media packet of source 19: the second one has its bytes the
other way round. -/
theorem second_dummy_turned_around : ∃ w₀ w ds d, Reached (Env.constant 2) localHost 2 w₀ ∧
    ReflTransGen (Step (Env.constant 2) localHost) w₀ w ∧ messagesIn w.log = messagesIn w₀.log ++ ds ∧
    ds[1]? = some d ∧ sourceWord (datagram d.bytes) = htonl w₀.ext.ssrcValue ∧
    sourceWord (datagram d.bytes) ≠ w₀.ext.ssrcValue := by
  let due (w₀ w : Process) : Bool :=
    ((messagesIn w.log).drop (messagesIn w₀.log).length)[1]?.any fun d => decide (40 ≤ d.bytes.length)
  have hcheck : endsIn (session (Env.constant 2) localHost 2 (announcedCall ++ [some (spokenPacket [1])])
      1 3) (atMain (Env.constant 2)) (fun w => decide (w.ext.rtpHdset = 2 ∧ ihl w.ext.rtpHeader = 5 ∧
        (RTPHeader.load w.ext.rtpHeader 28).version ≠ 0 ∧ w.ext.ssrcValue ≠ 0 ∧
        htonl w.ext.ssrcValue ≠ w.ext.ssrcValue) &&
      endsIn (ticks (Env.constant 2) localHost 300) w (due w)) = true := by decide +kernel
  rcases endsIn_run hcheck with ⟨_, w₀, hsession, h₀⟩
  rw [Bool.and_eq_true, decide_eq_true_eq] at h₀
  rcases h₀ with ⟨⟨hset, hplain, hversion, hs, hturned⟩, hticks⟩
  rcases endsIn_run hticks with ⟨_, w, hrun, hw⟩
  have hsteps := ticks_run hrun
  obtain ⟨ds, hlog, hworn⟩ := messages_wear_header ⟨hset, hplain, hversion⟩ hs (run_interleaved hsteps)
  simp only [due, hlog, List.drop_left, Option.any_eq_true] at hw
  rcases hw with ⟨d, hd, hsize⟩
  have hwears := hworn 1 d hd (of_decide_eq_true hsize)
  have horigin : sourceWord (datagram d.bytes) = htonl w₀.ext.ssrcValue := hwears.origin
  exact ⟨w₀, w, ds, d, session_run hsession, hsteps, hlog, hd, horigin, horigin ▸ hturned⟩

end Runs

end Sqrkal.Discovery
