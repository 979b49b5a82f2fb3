import Sqrkal.Library.Ascent
import Sqrkal.Library.TimerRuns

/-! # Dummies while a message is being sent

`send_message` marks the time of a transmission with `packet_to_send`. The handler of the alarm
signal may run at any point of it. Burst padding looks at the mark, but clears it, and with the
next dummy finds it cleared; the padding of silences does not look at it.
-/

namespace Sqrkal.Library
open Foundation Message Relation

variable {δ : Type}

/-! ## A message and its interruptions -/

/-- The value of `packet_to_send`: one before a functor, the sequence number before `sendto`. -/
def sendFlag (sendExternal : Bool) (msg : SRPPMessage) : ℤ :=
  if sendExternal then 1 else msg.srppHeader.seq.toNat

/-- How far `send_message` has come. -/
inductive SendPoint where
  | entered
  | prepared (buff : List Byte)
  | flagged (buff : List Byte)
  | transmitted
  | cleared

/-- Between the assignment to `packet_to_send` and its clearing. -/
def SendPoint.inWindow : SendPoint → Bool
  | .flagged _ => true
  | .transmitted => true
  | _ => false

/-- A call of `send_message`, and the states before and behind each run of the handler that
has interrupted it in its window. -/
structure Sending (δ : Type) where
  point : SendPoint
  world : World δ
  interrupts : List (World δ × World δ)

/-- A call at its beginning. -/
def Sending.entry (w : World δ) : Sending δ := ⟨.entered, w, []⟩

/-- What the library keeps while other code runs. -/
structure SameSending (l l' : Lib) : Prop where
  timer : l'.timer = l.timer
  padding : l'.padding = l.padding
  packetToSend : l'.packetToSend = l.packetToSend

/-- The next statement of `send_message`, code in between that leaves the library alone, or a
complete run of the handler. -/
inductive SendStep (env : Env) (F : Functors δ) (sendExternal : Bool) (msg : SRPPMessage)
    (s : Sending δ) : Sending δ → Prop
  | prepare {wire : Mem} (hpoint : s.point = .entered)
      (hpayload : msg.encryptedPart.originalPayload ≠ [])
      (hwire : srppToNetwork msg (env.junk s.world.lib.tick) (env.filler s.world.lib.tick)
        (if isSignalingMessage msg = 1 then 0 else s.world.lib.session.encryptionKey) = .ok wire) :
      SendStep env F sendExternal msg s ⟨.prepared (wire.read 0 (srppSize msg).toNat),
        { s.world with lib := s.world.lib.ticked }, s.interrupts⟩
  | flag {buff : List Byte} (hpoint : s.point = .prepared buff) :
      SendStep env F sendExternal msg s ⟨.flagged buff,
        { s.world with lib := { s.world.lib with packetToSend := sendFlag sendExternal msg } },
        s.interrupts⟩
  | transmit {buff : List Byte} {status : ℤ} {w : World δ} (hpoint : s.point = .flagged buff)
      (hrun : (F.send buff).run s.world = .ok (status, w)) :
      SendStep env F sendExternal msg s ⟨.transmitted, w, s.interrupts⟩
  | clear (hpoint : s.point = .transmitted) :
      SendStep env F sendExternal msg s
        ⟨.cleared, { s.world with lib := { s.world.lib with packetToSend := 0 } }, s.interrupts⟩
  | work {w : World δ} (hsame : SameSending s.world.lib w.lib) :
      SendStep env F sendExternal msg s ⟨s.point, w, s.interrupts⟩
  | interrupt {w : World δ} (hrun : (timerFired env F).run s.world = .ok ((), w)) :
      SendStep env F sendExternal msg s ⟨s.point, w,
        if s.point.inWindow then (s.world, w) :: s.interrupts else s.interrupts⟩

/-- Without interruptions and with a functor the statements are those of `send_message`. -/
theorem sendMessage_steps {env : Env} {F : Functors δ} {msg : SRPPMessage} {w w' : World δ} {status : ℤ}
    (hpayload : msg.encryptedPart.originalPayload ≠ [])
    (h : (sendMessage env F msg).run w = .ok (status, w')) :
    ReflTransGen (SendStep env F true msg) (.entry w) ⟨.cleared, w', []⟩ := by
  obtain ⟨wire, w₁, hwire, hsend, rfl⟩ := sendMessage_ok env F hpayload h
  exact (ReflTransGen.single (.prepare rfl hpayload hwire)).tail (.flag rfl) |>.tail (.transmit rfl hsend)
    |>.tail (.clear rfl)

/-! ## What the handler transmits -/

/-- A number of transmissions that every call of the send functor adds one to, and that nothing
in the library changes. The functor leaves the timers and the padding alone. -/
structure CountsSends (sent : World δ → ℕ) (F : Functors δ) : Prop where
  lib : ∀ (w : World δ) (l : Lib), sent { w with lib := l } = sent w
  send : ∀ d, d ≠ [] → ∀ w status w', (F.send d).run w = .ok (status, w') → sent w' = sent w + 1
  padding : ∀ d w status w', (F.send d).run w = .ok (status, w') → w'.lib.padding = w.lib.padding
  timer : ∀ d, Within SameTimer (F.send d)

/-- Every entry that can be drawn has some payload, and dummies are not cut to nothing. -/
structure Sendable (burst : Bool) (p : Padding) : Prop where
  mode : p.isBurstPadding = burst
  payload : ∀ i : Fin 100, (i : ℕ) < 99 → HasPayload (p.dummyCache i)
  limit : p.lastmaxbandwidth ≠ 0

/-- Any padding operations after `init_SRPP` lead to such a cache. -/
theorem AfterInit.sendable {env : Env} (henv : env.ScalesUp) {l₀ : Lib} {s : Drawn}
    (hmax : 0 < l₀.maxpacketsize) (hlast : 0 < l₀.padding.lastmaxbandwidth)
    (h : AfterInit env keepsPayload l₀ s) :
    Sendable s.lib.padding.isBurstPadding s.lib.padding :=
  ⟨rfl, h.hasPayload hmax, (hlast.trans_le (h.limit henv hmax hlast.le)).ne'⟩

def packetDue (t : Timer) : Prop := t.packetCounter + 1 = packetInterval ∧ t.packetOn = true

def silenceDue (t : Timer) : Prop := t.silenceCounter + 1 = silenceInterval ∧ t.silenceOn = true

instance (t : Timer) : Decidable (packetDue t) := inferInstanceAs (Decidable (_ ∧ _))

instance (t : Timer) : Decidable (silenceDue t) := inferInstanceAs (Decidable (_ ∧ _))

/-- The number of dummies that burst padding transmits, the mark costing it the first. -/
def burstDummies (env : Env) (l : Lib) : ℕ :=
  if l.padding.isBurstPadding then burstDraw env l - (if l.packetToSend = 0 then 0 else 1) else 0

/-- The number of dummies that a tick transmits. -/
def tickDummies (env : Env) (l : Lib) : ℕ :=
  (if packetDue l.timer then burstDummies env l else 0) +
    if l.padding.isBurstPadding = true ∧ silenceDue l.timer ∧ ¬(packetDue l.timer ∧ bursts env l = true)
    then 1 else 0

/-- No dummy is transmitted at the tick: burst padding, if it is due, stops with the one that it
gives up for the mark, and the padding of silences, if it is due, is put off by burst padding. -/
def NoDummy (env : Env) (l : Lib) : Prop :=
  l.padding.isBurstPadding = true →
    (packetDue l.timer → burstDraw env l ≤ if l.packetToSend = 0 then 0 else 1) ∧
    (silenceDue l.timer → packetDue l.timer ∧ burstDraw env l ≠ 0)

instance (env : Env) (l : Lib) : Decidable (NoDummy env l) := by
  unfold NoDummy
  infer_instance

theorem tickDummies_eq_zero_iff (env : Env) (l : Lib) : tickDummies env l = 0 ↔ NoDummy env l := by
  unfold tickDummies NoDummy burstDummies bursts
  by_cases hb : l.padding.isBurstPadding = true
  · by_cases hp : packetDue l.timer
    · by_cases hs : silenceDue l.timer
      · simp [hb, hp, hs]
        split_ifs <;> omega
      · simp [hb, hp, hs]
        split_ifs <;> omega
    · by_cases hs : silenceDue l.timer
      · simp [hb, hp, hs]
      · simp [hb, hp, hs]
  · simp [hb]

/-! ## A tick at which nothing is transmitted -/

section NoDummy
variable {env : Env} {F : Functors δ} {l : Lib}

/-- A program that changes nothing outside the library, and in it what it finds there. -/
def MovesLib (x : World.Op δ Unit) (l l' : Lib) : Prop :=
  ∀ (ext : δ) (log : List Event), x.run ⟨l, ext, log⟩ = .ok ((), ⟨l', ext, log⟩)

/-- The state behind the dummy that burst padding gives up for the mark. -/
def Lib.givenUp (env : Env) (l : Lib) : Lib :=
  { l with
    padding := l.padding.setEntry (drawnIndex env l) (drawnDummy env l)
    lastSequenceNo := l.lastSequenceNo + 1
    tick := l.tick + 3
    packetToSend := 0
    timer := { l.timer with packetCounter := 0, silenceCounter := 0 } }

/-- The state in which burst padding that has drawn its number ends. -/
def Lib.burstEnded (count : ℤ) (l : Lib) : Lib :=
  { l with
    padding := { l.padding with cbpPacketCount := count }
    timer := { l.timer with packetCounter := 0 } }

/-- The mark costs burst padding its only dummy. -/
theorem burstLoop_marked (hmark : l.packetToSend ≠ 0) :
    MovesLib (burstLoop env F 1) l (l.givenUp env) := by
  intro ext log
  rw [burstLoop, burstRound, bind_assoc, run_bind_ok (onLib_run (drawDummy_run env l)), bind_assoc,
    run_get_bind, if_neg hmark]
  rfl

theorem pktTimerFired_burst (hb : l.padding.isBurstPadding = true) {l' : Lib}
    (h : MovesLib (burstLoop env F (burstDraw env l)) l.ticked l') :
    MovesLib (pktTimerFired env F) l (l'.burstEnded (srppRand 0 3 (env.rand l.tick) + 1)) := by
  intro ext log
  rw [pktTimerFired, defaultCbpPadAlgo, bind_assoc, run_get_bind, if_neg (by simp [hb]), bind_assoc,
    run_bind_ok (onLib_run (rand_run _ _ _ _)), bind_assoc]
  exact run_bind_ok (h ext log)

/-- Burst padding that is due and transmits nothing clears its counter, and the other one with
the dummy that it gives up. -/
theorem pktTimerFired_noDummy (h : l.padding.isBurstPadding = true →
      burstDraw env l ≤ if l.packetToSend = 0 then 0 else 1) : ∃ l',
    MovesLib (pktTimerFired env F) l l' ∧ l'.padding.isBurstPadding = l.padding.isBurstPadding ∧
      l'.timer = { l.timer with
        packetCounter := 0
        silenceCounter := if bursts env l then 0 else l.timer.silenceCounter } := by
  unfold bursts
  by_cases hb : l.padding.isBurstPadding = true
  · have hdraw := h hb
    by_cases hzero : burstDraw env l = 0
    · have hloop : MovesLib (burstLoop env F (burstDraw env l)) l.ticked l.ticked := by
        rw [hzero]
        exact fun _ _ => rfl
      refine ⟨_, pktTimerFired_burst hb hloop, rfl, ?_⟩
      simp [Lib.burstEnded, Lib.ticked, hzero]
    · have hmark : l.packetToSend ≠ 0 := fun hm => by simp [hm, hzero] at hdraw
      have hone : burstDraw env l = 1 := by
        rw [if_neg hmark] at hdraw
        omega
      have hloop : MovesLib (burstLoop env F (burstDraw env l)) l.ticked (l.ticked.givenUp env) := by
        rw [hone]
        exact burstLoop_marked hmark
      refine ⟨_, pktTimerFired_burst hb hloop, rfl, ?_⟩
      simp [Lib.burstEnded, Lib.givenUp, Lib.ticked, hone, hb]
  · refine ⟨{ l with timer := { l.timer with packetCounter := 0 } }, fun ext log => ?_, rfl, by simp [hb]⟩
    rw [pktTimerFired, defaultCbpPadAlgo, bind_assoc, run_get_bind, if_pos (by simp [hb])]
    rfl

/-- A tick at which no dummy is transmitted returns, and changes nothing outside the library. -/
theorem timerFired_noDummy (h : NoDummy env l) : ∃ l', MovesLib (timerFired env F) l l' := by
  let c : Lib := { l with timer := { l.timer with
    packetCounter := l.timer.packetCounter + 1, silenceCounter := l.timer.silenceCounter + 1 } }
  -- the packet timer, and the silence timer behind it
  have hfirst : ∃ l₁, MovesLib (if packetDue l.timer then pktTimerFired env F else pure ()) c l₁ ∧
      l₁.padding.isBurstPadding = l.padding.isBurstPadding ∧ (l.padding.isBurstPadding = true →
        ¬(l₁.timer.silenceCounter = silenceInterval ∧ l₁.timer.silenceOn = true)) := by
    by_cases hdue : packetDue l.timer
    · obtain ⟨l₁, hrun, hmode, htimer⟩ :=
        @pktTimerFired_noDummy δ env F c fun hb => (h hb).1 hdue
      refine ⟨l₁, by rwa [if_pos hdue], hmode, fun hb hs => ?_⟩
      rw [htimer] at hs
      by_cases hz : burstDraw env l = 0
      · have hnone : bursts env c = false := by
          change (_ && decide (burstDraw env l ≠ 0)) = false
          simp [hz]
        rw [hnone] at hs
        exact ((h hb).2 hs).2 hz
      · have hsome : bursts env c = true := by
          change (l.padding.isBurstPadding && decide (burstDraw env l ≠ 0)) = true
          simp [hz, hb]
        rw [hsome] at hs
        simp [silenceInterval] at hs
    · refine ⟨c, fun ext log => by rw [if_neg hdue]; rfl, rfl, fun hb hs => ?_⟩
      exact hdue ((h hb).2 hs).1
  rcases hfirst with ⟨l₁, hrun, hmode, hsilent⟩
  by_cases hs : l₁.timer.silenceCounter = silenceInterval ∧ l₁.timer.silenceOn = true
  · have hb : l₁.padding.isBurstPadding = false := by
      rw [hmode, Bool.eq_false_iff]
      exact fun hb => hsilent hb hs
    refine ⟨{ l₁ with timer := { l₁.timer with silenceCounter := 0 } }, fun ext log => ?_⟩
    rw [timerFired, run_bind_ok (setLib_run _ _), run_get_bind]
    refine (run_bind_ok (hrun ext log)).trans ?_
    rw [run_get_bind, if_pos hs, silenceTimerFired, defaultEbpPadAlgo, bind_assoc, run_get_bind,
      if_pos (by simp [hb])]
    rfl
  · refine ⟨l₁, fun ext log => ?_⟩
    rw [timerFired, run_bind_ok (setLib_run _ _), run_get_bind]
    refine (run_bind_ok (hrun ext log)).trans ?_
    rw [run_get_bind, if_neg hs]
    rfl

end NoDummy

section Handler
variable {env : Env} {F : Functors δ} {sent : World δ → ℕ} {burst : Bool} (hF : CountsSends sent F)

theorem srppRand_hundred_pos {max : ℤ} (h : max ≠ 0) (draw : ℕ) : 1 ≤ srppRand 100 max draw := by
  have hnonneg := Int.emod_nonneg (draw : ℤ) h
  rw [srppRand_eq h, Int.tmod_eq_emod_of_nonneg (Int.natCast_nonneg draw)]
  omega

/-- A drawn dummy has some payload, and leaves one in its entry. -/
theorem drawDummy_sendable {l l' : Lib} {msg : SRPPMessage} (hl : Sendable burst l.padding)
    (h : (drawDummy env).run l = .ok (msg, l')) :
    msg.encryptedPart.originalPayload ≠ [] ∧ Sendable burst l'.padding ∧ l'.packetToSend = l.packetToSend := by
  rw [drawDummy_run env l] at h
  cases h
  have hdummy : (drawnDummy env l).encryptedPart.originalPayload ≠ [] :=
    cutTo_payload (srppRand_hundred_pos hl.limit _) (hl.payload _ (indexOf_lt _))
  refine ⟨?_, ⟨hl.mode, fun i hi => ?_, hl.limit⟩, rfl⟩
  · change List.map _ _ ≠ []
    simpa using hdummy
  · change HasPayload (Function.update l.padding.dummyCache (drawnIndex env l) (drawnDummy env l) i)
    rw [Function.update_apply]
    split_ifs
    · exact hdummy
    · exact hl.payload i hi

include hF

/-- A message with a payload is transmitted once, and the mark is cleared behind it. -/
theorem sendMessage_sent {msg : SRPPMessage} (hpayload : msg.encryptedPart.originalPayload ≠ [])
    {w w' : World δ} {status : ℤ} (h : (sendMessage env F msg).run w = .ok (status, w')) :
    sent w' = sent w + 1 ∧ w'.lib.padding = w.lib.padding ∧ w'.lib.packetToSend = 0 := by
  obtain ⟨wire, w₁, -, hsend, rfl⟩ := sendMessage_ok env F hpayload h
  have hlarge : wire.read 0 (srppSize msg).toNat ≠ [] := by
    have hsize := srppSize_ge msg
    rw [← List.length_pos_iff, Mem.read_length]
    omega
  have hpadding := hF.padding _ _ _ _ hsend
  refine ⟨?_, hpadding, rfl⟩
  rw [hF.lib, hF.send _ hlarge _ _ _ hsend, hF.lib]

/-- One round of burst padding transmits a dummy unless the mark is set, and clears it. -/
theorem burstRound_sent {w w' : World δ} (hw : Sendable burst w.lib.padding)
    (h : (burstRound env F).run w = .ok ((), w')) :
    sent w' = sent w + (if w.lib.packetToSend = 0 then 1 else 0) ∧ Sendable burst w'.lib.padding ∧
      w'.lib.packetToSend = 0 := by
  rcases run_bind_eq_ok h with ⟨msg, w₁, hdraw, h⟩
  rcases onLib_eq_ok hdraw with ⟨l, hl, rfl⟩
  rcases drawDummy_sendable hw hl with ⟨hpayload, hsendable, hflag⟩
  rw [run_get_bind] at h
  dsimp only at h
  rw [hflag] at h
  rcases run_bind_eq_ok h with ⟨_, w₂, hsend, h⟩
  cases h
  split_ifs at hsend with hz
  · rcases run_bind_eq_ok hsend with ⟨_, w₃, hrun, hsend⟩
    cases hsend
    rcases sendMessage_sent hF hpayload hrun with ⟨hcount, hpadding, hclear⟩
    refine ⟨?_, ?_, hclear⟩
    · rw [hF.lib, hF.lib, hcount, hF.lib, if_pos hz]
    · change Sendable burst w₂.lib.padding
      rw [hpadding]
      exact hsendable
  · cases hsend
    refine ⟨?_, hsendable, rfl⟩
    simp only [if_neg hz, add_zero, hF.lib]

/-- Of several rounds, only the first may find the mark set. -/
theorem burstLoop_sent {n : ℕ} {w w' : World δ} (hw : Sendable burst w.lib.padding)
    (h : (burstLoop env F n).run w = .ok ((), w')) :
    sent w' = sent w + (n - if w.lib.packetToSend = 0 then 0 else 1) ∧ Sendable burst w'.lib.padding := by
  induction n generalizing w with
  | zero =>
    cases h
    simp [hw]
  | succ n ih =>
    rcases run_bind_eq_ok h with ⟨_, w₁, hround, h⟩
    rcases burstRound_sent hF hw hround with ⟨hcount, hsendable, hclear⟩
    rcases ih hsendable h with ⟨hrest, hlast⟩
    refine ⟨?_, hlast⟩
    rw [hrest, hcount, hclear, if_pos rfl]
    split_ifs <;> omega

theorem pktTimerFired_sent {w w' : World δ} (hw : Sendable burst w.lib.padding)
    (h : (pktTimerFired env F).run w = .ok ((), w')) :
    sent w' = sent w + burstDummies env w.lib ∧ Sendable burst w'.lib.padding := by
  rcases run_bind_eq_ok h with ⟨_, w₂, hburst, h⟩
  cases h
  unfold burstDummies
  rw [hF.lib]
  rcases defaultCbpPadAlgo_cases hburst with ⟨hb, rfl⟩ | ⟨hb, w₁, count, hloop, rfl⟩
  · rw [if_neg (by simp [hb]), add_zero]
    exact ⟨rfl, hw⟩
  · have hticked : Sendable burst ({ w with lib := w.lib.ticked } : World δ).lib.padding := hw
    rcases burstLoop_sent hF hticked hloop with ⟨hcount, hsendable⟩
    refine ⟨?_, ⟨hsendable.mode, hsendable.payload, hsendable.limit⟩⟩
    rw [hF.lib, hcount, hF.lib, if_pos hb]
    rfl

theorem silenceTimerFired_sent {w w' : World δ} (hw : Sendable burst w.lib.padding)
    (h : (silenceTimerFired env F).run w = .ok ((), w')) :
    sent w' = sent w + (if w.lib.padding.isBurstPadding then 1 else 0) ∧
      Sendable burst w'.lib.padding := by
  rcases run_bind_eq_ok h with ⟨_, w₁, hburst, h⟩
  cases h
  rw [hF.lib]
  rcases defaultEbpPadAlgo_cases hburst with ⟨hb, rfl⟩ | ⟨hb, msg, w₂, status, hdraw, hsend⟩
  · rw [if_neg (by simp [hb]), add_zero]
    exact ⟨rfl, hw⟩
  · rcases onLib_eq_ok hdraw with ⟨l, hl, rfl⟩
    rcases drawDummy_sendable hw hl with ⟨hpayload, hsendable, -⟩
    rcases sendMessage_sent hF hpayload hsend with ⟨hcount, hpadding, -⟩
    refine ⟨by rw [hcount, hF.lib, if_pos hb], ?_⟩
    change Sendable burst w₁.lib.padding
    rw [hpadding]
    exact hsendable

/-- What a complete run of the handler transmits. -/
theorem timerFired_sent {w w' : World δ} (hw : Sendable burst w.lib.padding)
    (h : (timerFired env F).run w = .ok ((), w')) :
    sent w' = sent w + tickDummies env w.lib ∧ Sendable burst w'.lib.padding := by
  rw [timerFired, run_bind_ok (setLib_run _ _), run_get_bind] at h
  rcases run_bind_eq_ok h with ⟨_, w₁, hfirst, h⟩
  rw [run_get_bind] at h
  dsimp only at hfirst h
  -- the packet timer, and whether the silence timer is due behind it
  have hpart : sent w₁ = sent w + (if packetDue w.lib.timer then burstDummies env w.lib else 0) ∧
      Sendable burst w₁.lib.padding ∧
      (w₁.lib.timer.silenceCounter = silenceInterval ∧ w₁.lib.timer.silenceOn = true ↔
        silenceDue w.lib.timer ∧ ¬(packetDue w.lib.timer ∧ bursts env w.lib = true)) := by
    split_ifs at hfirst with hdue
    · have hd : packetDue w.lib.timer := hdue
      rcases pktTimerFired_sent hF (by exact hw) hfirst with ⟨hcount, hsendable⟩
      have hcleared := pktTimerFired_timer hF.timer hfirst
      have htimer : w₁.lib.timer = { w.lib.timer with
          packetCounter := 0
          silenceCounter := if bursts env w.lib then 0 else w.lib.timer.silenceCounter + 1 } := hcleared
      refine ⟨?_, hsendable, ?_⟩
      · rw [hcount, hF.lib, if_pos hd]
        rfl
      · rw [htimer]
        unfold silenceDue
        by_cases hb : bursts env w.lib = true
        · simp [hb, hd, silenceInterval]
        · simp [hb]
    · have hd : ¬packetDue w.lib.timer := hdue
      cases hfirst
      refine ⟨?_, hw, ?_⟩
      · rw [hF.lib, if_neg hd, add_zero]
      · exact ⟨fun hs => ⟨hs, fun hp => hd hp.1⟩, fun hs => hs.1⟩
  rcases hpart with ⟨hcount, hsendable, hiff⟩
  unfold tickDummies
  rw [hw.mode]
  split_ifs at h with hdue
  · rcases silenceTimerFired_sent hF hsendable h with ⟨hsilence, hlast⟩
    refine ⟨?_, hlast⟩
    rw [hsilence, hcount, hsendable.mode, add_assoc]
    simp [hiff.mp hdue]
  · cases h
    have hnone : ¬(burst = true ∧ silenceDue w.lib.timer ∧
        ¬(packetDue w.lib.timer ∧ bursts env w.lib = true)) := fun hs => hdue (hiff.mpr hs.2)
    exact ⟨by rw [hcount, if_neg hnone, add_zero], hsendable⟩

end Handler

/-! ## Runs with interruptions -/

section Runs
variable {env : Env} {F : Functors δ} {sent : World δ → ℕ} {sendExternal : Bool} {msg : SRPPMessage}
variable (hF : CountsSends sent F)
include hF

/-- Behind every step the cache can be drawn from, and what a run of the handler transmitted in
the window is what its state before said. -/
theorem SendStep.interrupts {burst : Bool} {s s' : Sending δ}
    (h : SendStep env F sendExternal msg s s') (hs : Sendable burst s.world.lib.padding)
    (hi : ∀ p ∈ s.interrupts, sent p.2 = sent p.1 + tickDummies env p.1.lib) :
    Sendable burst s'.world.lib.padding ∧
      ∀ p ∈ s'.interrupts, sent p.2 = sent p.1 + tickDummies env p.1.lib := by
  cases h with
  | prepare hpoint hpayload hwire => exact ⟨hs, hi⟩
  | flag hpoint => exact ⟨hs, hi⟩
  | transmit hpoint hrun =>
    refine ⟨?_, hi⟩
    rw [hF.padding _ _ _ _ hrun]
    exact hs
  | clear hpoint => exact ⟨hs, hi⟩
  | work hsame =>
    refine ⟨?_, hi⟩
    rw [hsame.padding]
    exact hs
  | interrupt hrun =>
    rcases timerFired_sent hF hs hrun with ⟨hcount, hsendable⟩
    refine ⟨hsendable, fun p hp => ?_⟩
    dsimp only at hp
    split_ifs at hp
    · rcases List.mem_cons.mp hp with rfl | hp
      · exact hcount
      · exact hi p hp
    · exact hi p hp

/-- However often the handler interrupts a call of `send_message`, none of its runs between the
setting of `packet_to_send` and its clearing transmits a dummy, exactly if in the state before
each of them burst padding was going to give up its only dummy, or to send none, and the padding
of silences was not due or was going to be put off. -/
theorem interrupts_silent_iff {w : World δ} (hw : Sendable w.lib.padding.isBurstPadding w.lib.padding)
    {s : Sending δ} (h : ReflTransGen (SendStep env F sendExternal msg) (.entry w) s) :
    (∀ p ∈ s.interrupts, sent p.2 = sent p.1) ↔ ∀ p ∈ s.interrupts, NoDummy env p.1.lib := by
  have hrun : Sendable w.lib.padding.isBurstPadding s.world.lib.padding ∧
      ∀ p ∈ s.interrupts, sent p.2 = sent p.1 + tickDummies env p.1.lib := by
    induction h with
    | refl => exact ⟨hw, by simp [Sending.entry]⟩
    | tail _ hstep ih => exact hstep.interrupts hF ih.1 ih.2
  refine forall₂_congr fun p hp => ?_
  rw [hrun.2 p hp, Nat.add_eq_left]
  exact tickDummies_eq_zero_iff env p.1.lib

end Runs

/-! ## A program that records what it sends -/

/-- A send functor that keeps the datagrams it is given. -/
def recorder : Functors (List (List Byte)) where
  send d := do
    modify fun w => { w with ext := d :: w.ext }
    return d.length
  receive := pure ()

theorem countsSends_recorder : CountsSends (fun w => w.ext.length) recorder where
  lib w l := rfl
  send d _ w status w' h := by
    cases h
    rfl
  padding d w status w' h := by
    cases h
    rfl
  timer d w status w' h := by
    cases h
    exact .single rfl

/-- A session in burst mode, with entries of three bytes, whose timers have these counters. -/
def burstWorld (draw : ℕ) (packetCounter silenceCounter : ℤ) : World (List (List Byte)) :=
  let l := Lib.start (Env.constant draw)
  let msg := l.padding.dummyCache (indexOf 0)
  { lib := { l with
      timer := { packetCounter, silenceCounter, packetOn := true, silenceOn := true }
      padding := { l.padding with
        isBurstPadding := true
        dummyCache := fun _ => { msg with
          encryptedPart := { msg.encryptedPart with originalPayload := [1, 2, 3] } } } }
    ext := []
    log := [] }

theorem sendable_burstWorld (draw : ℕ) (packetCounter silenceCounter : ℤ) :
    Sendable true (burstWorld draw packetCounter silenceCounter).lib.padding :=
  ⟨rfl, fun _ _ => List.cons_ne_nil _ _, show (100 : ℤ) ≠ 0 by decide⟩

/-- A media message of two bytes. -/
def twoBytes : SRPPMessage := createSrppMessage ((Lib.start (Env.constant 0)).fresh (Env.constant 0)) [7, 8]

/-- A call that has set the mark is interrupted by one run of the handler. -/
theorem interrupted_run {draw : ℕ} {packetCounter silenceCounter : ℤ} {check : World (List (List Byte)) → Bool}
    (h : endsIn (timerFired (Env.constant draw) recorder)
      { burstWorld draw packetCounter silenceCounter with
        lib := { (burstWorld draw packetCounter silenceCounter).lib.ticked with packetToSend := 1 } }
      check = true) :
    ∃ (s : Sending (List (List Byte))) (w : World (List (List Byte))),
      ReflTransGen (SendStep (Env.constant draw) recorder true twoBytes)
        (.entry (burstWorld draw packetCounter silenceCounter)) s ∧
      s.interrupts = [({ burstWorld draw packetCounter silenceCounter with
        lib := { (burstWorld draw packetCounter silenceCounter).lib.ticked with packetToSend := 1 } }, w)] ∧
      check w = true := by
  rcases endsIn_run h with ⟨_, w, hrun, hcheck⟩
  refine ⟨_, w, ((ReflTransGen.single (.prepare rfl ?_ rfl)).tail (.flag rfl)).tail (.interrupt hrun),
    rfl, hcheck⟩
  exact List.cons_ne_nil _ _

/-- Burst padding draws one dummy, and gives it up. -/
theorem interrupts_silent_iff_one : ∃ s : Sending (List (List Byte)), s.interrupts.length = 1 ∧
    ReflTransGen (SendStep (Env.constant 1) recorder true twoBytes) (.entry (burstWorld 1 299 399)) s ∧
    ∀ p ∈ s.interrupts, p.2.ext.length = p.1.ext.length := by
  have hcheck : endsIn (timerFired (Env.constant 1) recorder)
      { burstWorld 1 299 399 with
        lib := { (burstWorld 1 299 399).lib.ticked with packetToSend := 1 } } (fun _ => true) = true := by
    decide +kernel
  rcases interrupted_run hcheck with ⟨s, w, hrun, hs, -⟩
  refine ⟨s, by rw [hs]; rfl, hrun, ?_⟩
  apply (interrupts_silent_iff countsSends_recorder (sendable_burstWorld 1 299 399) hrun).mpr
  rw [hs]
  intro p hp
  obtain rfl := List.mem_singleton.mp hp
  change NoDummy (Env.constant 1) { (burstWorld 1 299 399).lib.ticked with packetToSend := 1 }
  decide +kernel

/-- After four hundred ticks of silence, padding sends its dummy in the middle of a message. -/
theorem dummy_within_send : ¬∀ (env : Env) (sendExternal : Bool) (msg : SRPPMessage)
    (w : World (List (List Byte))) (s : Sending (List (List Byte))),
    Sendable w.lib.padding.isBurstPadding w.lib.padding →
    ReflTransGen (SendStep env recorder sendExternal msg) (.entry w) s →
    ∀ p ∈ s.interrupts, p.2.ext.length = p.1.ext.length := by
  intro hclaim
  have hcheck : endsIn (timerFired (Env.constant 1) recorder)
      { burstWorld 1 0 399 with
        lib := { (burstWorld 1 0 399).lib.ticked with packetToSend := 1 } }
      (fun w => w.ext.length == 1) = true := by
    decide +kernel
  rcases interrupted_run hcheck with ⟨s, w, hrun, hs, hlen⟩
  have hsame := hclaim _ true twoBytes _ s (sendable_burstWorld 1 0 399) hrun _
    (by rw [hs]; exact List.mem_singleton_self _)
  have hone : w.ext.length = 1 := by simpa using hlen
  rw [hone] at hsame
  cases hsame

end Sqrkal.Library
