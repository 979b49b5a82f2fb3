import Sqrkal.Foundation.Alarm
import Sqrkal.Library.PaddingSteps

/-! # The two timers of a session

`SRPPTimer` counts the ticks of the alarm signal in two counters, whether the timers are on or
off, and compares them with the intervals for equality. `start_packet` and `start_silence` leave
the counters alone, so a timer that is switched on too late never fires.
-/

namespace Sqrkal.Library
open Foundation Message

/-- The static members of `SRPPTimer`. -/
structure SRPPTimer extends Timer where
  packetInterval : ℤ
  silenceInterval : ℤ

/-- The handler of the signal, and what may be called from outside it. -/
inductive TimerOp where
  /-- The burst padding of a packet timer that fires has sent dummies, or it has not. -/
  | timerFired (dummies : Bool)
  | startPacket
  | startSilence
  | pausePacket
  | pauseSilence
  | resetPacket
  | resetSilence
  | pauseTimer
  | startTimer
deriving DecidableEq

namespace SRPPTimer

/-- The constructor, on static members that are zero. -/
def new (packetInterval silenceInterval : ℤ) : SRPPTimer where
  packetInterval := packetInterval
  silenceInterval := silenceInterval

/-- The counters at the beginning of `timer_fired`. -/
def counted (t : SRPPTimer) : SRPPTimer :=
  { t with packetCounter := intSucc t.packetCounter, silenceCounter := intSucc t.silenceCounter }

/-- `pkt_timer_fired`: burst padding resets both counters with every dummy it sends. -/
def pktTimerFired (dummies : Bool) (t : SRPPTimer) : SRPPTimer :=
  { t with packetCounter := 0, silenceCounter := if dummies then 0 else t.silenceCounter }

/-- `silence_timer_fired`. -/
def silenceTimerFired (t : SRPPTimer) : SRPPTimer := { t with silenceCounter := 0 }

/-- The condition under which `timer_fired` calls `pkt_timer_fired`. -/
def packetFires (t : SRPPTimer) : Bool :=
  decide (t.counted.packetCounter = t.packetInterval) && t.packetOn

/-- The first half of `timer_fired`. -/
def afterPacket (dummies : Bool) (t : SRPPTimer) : SRPPTimer :=
  if t.packetFires then t.counted.pktTimerFired dummies else t.counted

/-- The condition under which `timer_fired` calls `silence_timer_fired`. -/
def silenceFires (dummies : Bool) (t : SRPPTimer) : Bool :=
  decide ((t.afterPacket dummies).silenceCounter = t.silenceInterval) && t.silenceOn

def perform (t : SRPPTimer) : TimerOp → SRPPTimer
  | .timerFired dummies =>
    if t.silenceFires dummies then (t.afterPacket dummies).silenceTimerFired
    else t.afterPacket dummies
  | .startPacket => { t with packetOn := true }
  | .startSilence => { t with silenceOn := true }
  | .pausePacket => { t with packetOn := false }
  | .pauseSilence => { t with silenceOn := false }
  | .resetPacket => { t with packetCounter := 0 }
  | .resetSilence => { t with silenceCounter := 0 }
  | .pauseTimer => { t with packetOn := false, silenceOn := false }
  | .startTimer => { t with packetOn := true, silenceOn := true }

def run (t : SRPPTimer) (ops : List TimerOp) : SRPPTimer := ops.foldl perform t

end SRPPTimer

/-! ## Runs and windows -/

def TimerOp.isTick : TimerOp → Bool
  | .timerFired _ => true
  | _ => false

/-- As many ticks as the packet timer's interval, with the timer on throughout and its counter
not reset from outside. -/
structure PacketWindow (t : SRPPTimer) (w : List TimerOp) : Prop where
  ticks : (w.countP TimerOp.isTick : ℤ) = t.packetInterval
  on : ∀ u, u <+: w → (t.run u).packetOn = true
  noReset : .resetPacket ∉ w

/-- The same for the silence timer, whose counter the burst padding resets as well. -/
structure SilenceWindow (t : SRPPTimer) (w : List TimerOp) : Prop where
  ticks : (w.countP TimerOp.isTick : ℤ) = t.silenceInterval
  on : ∀ u, u <+: w → (t.run u).silenceOn = true
  noReset : .resetSilence ∉ w
  noDummies : ∀ u dummies, u ++ [.timerFired dummies] <+: w →
    (dummies && (t.run u).packetFires) = false

/-- `pkt_timer_fired` is called at a tick. -/
def FiresPacket (t : SRPPTimer) (w : List TimerOp) : Prop :=
  ∃ u dummies, u ++ [.timerFired dummies] <+: w ∧ (t.run u).packetFires = true

/-- `silence_timer_fired` is called at a tick. -/
def FiresSilence (t : SRPPTimer) (w : List TimerOp) : Prop :=
  ∃ u dummies, u ++ [.timerFired dummies] <+: w ∧ (t.run u).silenceFires dummies = true

/-- The operations that switch the packet timer on. -/
def TimerOp.startsPacket (op : TimerOp) : Bool := op == .startPacket || op == .startTimer

def TimerOp.startsSilence (op : TimerOp) : Bool := op == .startSilence || op == .startTimer

/-- Whenever an operation switches a timer on, its counter is below its interval. -/
def StartsBelow (t : SRPPTimer) (ops : List TimerOp) : Prop :=
  ∀ u op, u ++ [op] <+: ops →
    (op.startsPacket = true → (t.run u).packetOn = false →
      0 ≤ (t.run u).packetCounter ∧ (t.run u).packetCounter < t.packetInterval) ∧
    (op.startsSilence = true → (t.run u).silenceOn = false →
      0 ≤ (t.run u).silenceCounter ∧ (t.run u).silenceCounter < t.silenceInterval)

/-! ## Each timer is an alarm -/

namespace SRPPTimer

def packet (t : SRPPTimer) : Alarm := ⟨t.packetInterval, t.packetCounter, t.packetOn⟩

def silence (t : SRPPTimer) : Alarm := ⟨t.silenceInterval, t.silenceCounter, t.silenceOn⟩

/-- What an operation is to the packet timer. -/
def packetMove (_ : SRPPTimer) : TimerOp → Alarm.Move
  | .timerFired _ => .tick
  | .startPacket => .start
  | .startTimer => .start
  | .pausePacket => .pause
  | .pauseTimer => .pause
  | .resetPacket => .reset
  | _ => .skip

/-- What it is to the silence timer: a tick with dummies resets it. -/
def silenceMove (t : SRPPTimer) : TimerOp → Alarm.Move
  | .timerFired dummies => if dummies && t.packetFires then .reset else .tick
  | .startSilence => .start
  | .startTimer => .start
  | .pauseSilence => .pause
  | .pauseTimer => .pause
  | .resetSilence => .reset
  | _ => .skip

theorem afterPacket_packet (t : SRPPTimer) (dummies : Bool) :
    (t.afterPacket dummies).packet = t.packet.perform .tick := by
  have hdue : t.packet.counted.due = t.packetFires := rfl
  unfold afterPacket Alarm.perform
  rw [hdue]
  split_ifs <;> rfl

theorem perform_packet (t : SRPPTimer) (op : TimerOp) :
    (t.perform op).packet = t.packet.perform (t.packetMove op) := by
  cases op with
  | timerFired dummies =>
    rw [packetMove, ← afterPacket_packet t dummies, perform]
    split_ifs <;> rfl
  | startPacket => rfl
  | startSilence => rfl
  | pausePacket => rfl
  | pauseSilence => rfl
  | resetPacket => rfl
  | resetSilence => rfl
  | pauseTimer => rfl
  | startTimer => rfl

/-- A counter that burst padding has just reset does not fire. -/
theorem silenceFires_eq {t : SRPPTimer} (h : 0 < t.silenceInterval) (dummies : Bool) :
    t.silenceFires dummies =
      (!(dummies && t.packetFires) && t.silence.counted.due) := by
  unfold silenceFires afterPacket
  by_cases hf : t.packetFires = true
  · rw [hf, if_pos rfl]
    cases dummies with
    | true =>
      change (decide ((0 : ℤ) = t.silenceInterval) && t.silenceOn) = false
      rw [decide_eq_false h.ne, Bool.false_and]
    | false => rfl
  · rw [if_neg hf]
    simp only [hf, Bool.and_false, Bool.not_false, Bool.true_and]
    rfl

theorem perform_silence {t : SRPPTimer} (h : 0 < t.silenceInterval) (op : TimerOp) :
    (t.perform op).silence = t.silence.perform (t.silenceMove op) := by
  cases op with
  | timerFired dummies =>
    rw [perform, silenceFires_eq h, silenceMove, afterPacket]
    cases hd : dummies with
    | true =>
      cases hf : t.packetFires with
      | true => rfl
      | false =>
        simp only [Bool.and_false, Bool.not_false, Bool.true_and, Alarm.perform]
        cases t.silence.counted.due <;> rfl
    | false =>
      simp only [Bool.false_and, Bool.not_false, Bool.true_and, Alarm.perform]
      cases t.packetFires <;> cases t.silence.counted.due <;> rfl
  | startPacket => rfl
  | startSilence => rfl
  | pausePacket => rfl
  | pauseSilence => rfl
  | resetPacket => rfl
  | resetSilence => rfl
  | pauseTimer => rfl
  | startTimer => rfl

theorem perform_intervals (t : SRPPTimer) (op : TimerOp) :
    (t.perform op).packetInterval = t.packetInterval ∧
      (t.perform op).silenceInterval = t.silenceInterval := by
  cases op with
  | timerFired dummies =>
    simp only [perform, afterPacket]
    split_ifs <;> exact ⟨rfl, rfl⟩
  | startPacket => exact ⟨rfl, rfl⟩
  | startSilence => exact ⟨rfl, rfl⟩
  | pausePacket => exact ⟨rfl, rfl⟩
  | pauseSilence => exact ⟨rfl, rfl⟩
  | resetPacket => exact ⟨rfl, rfl⟩
  | resetSilence => exact ⟨rfl, rfl⟩
  | pauseTimer => exact ⟨rfl, rfl⟩
  | startTimer => exact ⟨rfl, rfl⟩

theorem run_intervals (t : SRPPTimer) (ops : List TimerOp) :
    (t.run ops).packetInterval = t.packetInterval ∧
      (t.run ops).silenceInterval = t.silenceInterval := by
  induction ops generalizing t with
  | nil => exact ⟨rfl, rfl⟩
  | cons op ops ih =>
    rcases ih (t.perform op) with ⟨hp, hs⟩
    exact ⟨hp.trans (perform_intervals t op).1, hs.trans (perform_intervals t op).2⟩

theorem inside_packet : Alarm.Inside perform packet packetMove (fun _ => True) where
  keeps _ _ _ := trivial
  moves t op _ := perform_packet t op

theorem inside_silence : Alarm.Inside perform silence silenceMove (fun t => 0 < t.silenceInterval) where
  keeps t op h := (perform_intervals t op).2.symm ▸ h
  moves _ op h := perform_silence h op

/-! ## The windows of the two alarms -/

section Windows
variable {t : SRPPTimer} {w : List TimerOp}

theorem packetMove_ticks (t : SRPPTimer) (w : List TimerOp) :
    (Alarm.movesOf perform packetMove t w).count .tick = w.countP TimerOp.isTick := by
  induction w generalizing t with
  | nil => rfl
  | cons op w ih =>
    rw [Alarm.movesOf, List.count_cons, List.countP_cons, ih]
    cases op <;> rfl

/-- Without dummies the ticks of the signal are those of the silence timer. -/
theorem silenceMove_ticks (h : ∀ u dummies, u ++ [.timerFired dummies] <+: w →
    (dummies && (t.run u).packetFires) = false) :
    (Alarm.movesOf perform silenceMove t w).count .tick = w.countP TimerOp.isTick := by
  induction w generalizing t with
  | nil => rfl
  | cons op w ih =>
    have hrest := @ih (t.perform op) fun u dummies hu =>
      h (op :: u) dummies (List.cons_prefix_cons.mpr ⟨rfl, hu⟩)
    rw [Alarm.movesOf, List.count_cons, List.countP_cons, hrest]
    cases op with
    | timerFired dummies =>
      have hnone := h [] dummies (List.cons_prefix_cons.mpr ⟨rfl, List.nil_prefix⟩)
      have hmove : t.silenceMove (.timerFired dummies) = .tick := if_neg (by simpa [run] using hnone)
      rw [hmove]
      rfl
    | startPacket => rfl
    | startSilence => rfl
    | pausePacket => rfl
    | pauseSilence => rfl
    | resetPacket => rfl
    | resetSilence => rfl
    | pauseTimer => rfl
    | startTimer => rfl

theorem packetWindow_iff : PacketWindow t w ↔ Alarm.Window perform packet packetMove t w := by
  have hticks := packetMove_ticks t w
  constructor
  · intro h
    refine ⟨by rw [hticks]; exact h.ticks, h.on, fun u op hu hreset => ?_⟩
    cases op with
    | resetPacket => exact h.noReset (hu.mem (by simp))
    | _ => cases hreset
  · intro h
    refine ⟨by rw [← hticks]; exact h.ticks, h.on, fun hmem => ?_⟩
    rcases List.append_of_mem hmem with ⟨u, rest, rfl⟩
    exact h.noReset u .resetPacket ⟨rest, by simp⟩ rfl

theorem silenceWindow_iff : SilenceWindow t w ↔ Alarm.Window perform silence silenceMove t w := by
  constructor
  · intro h
    refine ⟨by rw [silenceMove_ticks h.noDummies]; exact h.ticks, h.on, fun u op hu hreset => ?_⟩
    cases op with
    | timerFired dummies =>
      have hnone := h.noDummies u dummies hu
      have hmove : (t.run u).silenceMove (.timerFired dummies) = .tick := if_neg (by simp [hnone])
      rw [show List.foldl perform t u = t.run u from rfl, hmove] at hreset
      cases hreset
    | resetSilence => exact h.noReset (hu.mem (by simp))
    | _ => cases hreset
  · intro h
    have hnone : ∀ u dummies, u ++ [.timerFired dummies] <+: w →
        (dummies && (t.run u).packetFires) = false := by
      intro u dummies hu
      by_contra hfires
      have hdummies : (dummies && (t.run u).packetFires) = true := by simpa using hfires
      exact h.noReset u _ hu (if_pos hdummies)
    refine ⟨by rw [← silenceMove_ticks hnone]; exact h.ticks, h.on, fun hmem => ?_, hnone⟩
    rcases List.append_of_mem hmem with ⟨u, rest, rfl⟩
    exact h.noReset u .resetSilence ⟨rest, by simp⟩ rfl

theorem firesPacket_iff : FiresPacket t w ↔ Alarm.Fires perform packet packetMove t w := by
  constructor
  · rintro ⟨u, dummies, hu, hf⟩
    exact ⟨u, _, hu, rfl, hf⟩
  · rintro ⟨u, op, hu, hm, hf⟩
    cases op with
    | timerFired dummies => exact ⟨u, dummies, hu, hf⟩
    | _ => cases hm

theorem firesSilence_iff (h : 0 < t.silenceInterval) :
    FiresSilence t w ↔ Alarm.Fires perform silence silenceMove t w := by
  have hpos (u : List TimerOp) : 0 < (t.run u).silenceInterval := (run_intervals t u).2.symm ▸ h
  constructor
  · rintro ⟨u, dummies, hu, hf⟩
    rw [silenceFires_eq (hpos u), Bool.and_eq_true, Bool.not_eq_true'] at hf
    exact ⟨u, _, hu, if_neg (by simp [show List.foldl perform t u = t.run u from rfl, hf.1]), hf.2⟩
  · rintro ⟨u, op, hu, hm, hf⟩
    cases op with
    | timerFired dummies =>
      refine ⟨u, dummies, hu, ?_⟩
      have hnone : ¬(dummies && (t.run u).packetFires) = true := by
        intro hd
        rw [show List.foldl perform t u = t.run u from rfl, silenceMove, if_pos hd] at hm
        cases hm
      rw [silenceFires_eq (hpos u), Bool.and_eq_true, Bool.not_eq_true']
      exact ⟨by simpa using hnone, hf⟩
    | startTimer => cases hm
    | _ => cases hm

/-- The starts of both timers. -/
theorem startsBelow_iff : StartsBelow t w ↔
    Alarm.SwitchesArmed perform packet packetMove t w ∧
      Alarm.SwitchesArmed perform silence silenceMove t w := by
  have hint (u : List TimerOp) := run_intervals t u
  constructor
  · intro h
    refine ⟨fun u op hu hm hoff => ?_, fun u op hu hm hoff => ?_⟩
    · have hstarts : op.startsPacket = true := by
        cases op <;> first | rfl | cases hm
      have hbelow := (h u op hu).1 hstarts hoff
      rw [← (hint u).1] at hbelow
      exact hbelow
    · have hstarts : op.startsSilence = true := by
        cases op with
        | timerFired dummies =>
          simp only [silenceMove] at hm
          split_ifs at hm
        | startSilence => rfl
        | startTimer => rfl
        | _ => cases hm
      have hbelow := (h u op hu).2 hstarts hoff
      rw [← (hint u).2] at hbelow
      exact hbelow
  · intro h u op hu
    refine ⟨fun hstarts hoff => ?_, fun hstarts hoff => ?_⟩
    · have hm : packetMove (t.run u) op = .start := by
        cases op <;> first | rfl | cases hstarts
      rw [← (hint u).1]
      exact h.1 u op hu hm hoff
    · have hm : silenceMove (t.run u) op = .start := by
        cases op <;> first | rfl | cases hstarts
      rw [← (hint u).2]
      exact h.2 u op hu hm hoff

end Windows

end SRPPTimer

/-! ## The handler of the library -/

section Handler
variable {δ : Type} {env : Env} {F : Functors δ}

def SameTimer (w w' : World δ) : Prop := w'.lib.timer = w.lib.timer

theorem SameTimer.of_within {α : Type} {x : World.Op δ α} (h : Within SameTimer x) {w w' : World δ} {a : α}
    (hr : x.run w = .ok (a, w')) : w'.lib.timer = w.lib.timer :=
  (h w).invariant (I := fun u => u.lib.timer = w.lib.timer) (fun _ _ hs ht => hs.trans ht) rfl hr

theorem SameTimer.onLib {α : Type} {x : Lib.Op α}
    (h : ∀ l a l', x.run l = .ok (a, l') → l'.timer = l.timer) : Within SameTimer (onLib (δ := δ) x) := by
  intro w a w' hr
  rcases onLib_eq_ok hr with ⟨l, hl, rfl⟩
  exact .single (h _ _ _ hl)

theorem sendMessage_sameTimer (hF : ∀ d, Within SameTimer (F.send d)) (msg : SRPPMessage) :
    Within SameTimer (sendMessage env F msg) := by
  have hscratch : Within SameTimer (onLib (δ := δ) (scratch env)) := SameTimer.onLib fun _ _ _ h => by
    cases h
    rfl
  refine .ite (.pure _) (.bind hscratch fun r => .bind .get fun w => .bind (.lift _) fun wire => ?_)
  exact .bind (.modify fun _ => rfl) fun _ => .bind (hF _) fun _ => .bind (.modify fun _ => rfl) fun _ =>
    .pure _

theorem drawDummy_sameTimer : Within SameTimer (onLib (δ := δ) (drawDummy env)) :=
  SameTimer.onLib fun l _ _ h => by
    rw [drawDummy_run env l] at h
    cases h
    rfl

/-- A round of burst padding clears both counters. -/
theorem burstRound_timer (hF : ∀ d, Within SameTimer (F.send d)) {w w' : World δ}
    (h : (burstRound env F).run w = .ok ((), w')) :
    w'.lib.timer = { w.lib.timer with packetCounter := 0, silenceCounter := 0 } := by
  rcases run_bind_eq_ok h with ⟨msg, w₁, hdraw, h⟩
  rw [run_get_bind] at h
  rcases run_bind_eq_ok h with ⟨_, w₂, hsend, h⟩
  cases h
  have hfirst := SameTimer.of_within drawDummy_sameTimer hdraw
  have hsecond : w₂.lib.timer = w₁.lib.timer := by
    split_ifs at hsend
    · rcases run_bind_eq_ok hsend with ⟨_, w₃, hrun, hsend⟩
      cases hsend
      exact SameTimer.of_within (sendMessage_sameTimer hF msg) hrun
    · cases hsend
      rfl
  simp [hsecond, hfirst]

theorem burstLoop_timer (hF : ∀ d, Within SameTimer (F.send d)) {n : ℕ} {w w' : World δ}
    (h : (burstLoop env F n).run w = .ok ((), w')) :
    w'.lib.timer = if n = 0 then w.lib.timer
      else { w.lib.timer with packetCounter := 0, silenceCounter := 0 } := by
  induction n generalizing w with
  | zero =>
    cases h
    rfl
  | succ n ih =>
    rcases run_bind_eq_ok h with ⟨_, w₁, hround, h⟩
    rw [if_neg (Nat.succ_ne_zero n), ih h, burstRound_timer hF hround]
    split_ifs <;> rfl

/-- The number of dummies that burst padding decides on. -/
def burstDraw (env : Env) (l : Lib) : ℕ := (srppRand 0 3 (env.rand l.tick)).toNat

/-- Burst padding in this state makes at least one round. -/
def bursts (env : Env) (l : Lib) : Bool := l.padding.isBurstPadding && decide (burstDraw env l ≠ 0)

/-- Without burst padding `default_cbp_pad_algo` does nothing, and with it there are as many
rounds as were drawn. -/
theorem defaultCbpPadAlgo_cases {r : ℤ} {w w' : World δ} (h : (defaultCbpPadAlgo env F).run w = .ok (r, w')) :
    (w.lib.padding.isBurstPadding = false ∧ w' = w) ∨
    (w.lib.padding.isBurstPadding = true ∧ ∃ (w₁ : World δ) (count : ℤ),
      (burstLoop env F (burstDraw env w.lib)).run { w with lib := w.lib.ticked } = .ok ((), w₁) ∧
      w' = { w₁ with lib := { w₁.lib with
        padding := { w₁.lib.padding with cbpPacketCount := count }
        timer := { w₁.lib.timer with packetCounter := 0 } } }) := by
  rw [defaultCbpPadAlgo, run_get_bind] at h
  by_cases hb : w.lib.padding.isBurstPadding = true
  · rw [if_neg (by simp [hb]), run_bind_ok (onLib_run (rand_run _ _ _ _))] at h
    rcases run_bind_eq_ok h with ⟨_, w₁, hloop, h⟩
    cases h
    exact .inr ⟨hb, w₁, _, hloop, rfl⟩
  · rw [if_pos (by simp [hb])] at h
    cases h
    exact .inl ⟨Bool.eq_false_iff.mpr hb, rfl⟩

/-- Without burst padding `default_ebp_pad_algo` does nothing, and with it one dummy is sent. -/
theorem defaultEbpPadAlgo_cases {r : ℤ} {w w' : World δ} (h : (defaultEbpPadAlgo env F).run w = .ok (r, w')) :
    (w.lib.padding.isBurstPadding = false ∧ w' = w) ∨
    (w.lib.padding.isBurstPadding = true ∧ ∃ (msg : SRPPMessage) (w₁ : World δ) (status : ℤ),
      (onLib (drawDummy env) : World.Op δ SRPPMessage).run w = .ok (msg, w₁) ∧
      (sendMessage env F msg).run w₁ = .ok (status, w')) := by
  rw [defaultEbpPadAlgo, run_get_bind] at h
  by_cases hb : w.lib.padding.isBurstPadding = true
  · rw [if_neg (by simp [hb])] at h
    rcases run_bind_eq_ok h with ⟨msg, w₁, hdraw, h⟩
    rcases run_bind_eq_ok h with ⟨status, w₂, hsend, h⟩
    cases h
    exact .inr ⟨hb, msg, w₁, status, hdraw, hsend⟩
  · rw [if_pos (by simp [hb])] at h
    cases h
    exact .inl ⟨Bool.eq_false_iff.mpr hb, rfl⟩

/-- A packet timer that fires clears its counter, and burst padding clears the other. -/
theorem pktTimerFired_timer (hF : ∀ d, Within SameTimer (F.send d)) {w w' : World δ}
    (h : (pktTimerFired env F).run w = .ok ((), w')) :
    w'.lib.timer = { w.lib.timer with
      packetCounter := 0
      silenceCounter := if bursts env w.lib then 0 else w.lib.timer.silenceCounter } := by
  rcases run_bind_eq_ok h with ⟨_, w₂, hburst, h⟩
  cases h
  unfold bursts
  rcases defaultCbpPadAlgo_cases hburst with ⟨hb, rfl⟩ | ⟨hb, w₁, count, hloop, rfl⟩
  · simp [hb]
  · have hcleared := burstLoop_timer hF hloop
    have htimer : w₁.lib.timer = if burstDraw env w.lib = 0 then w.lib.timer
        else { w.lib.timer with packetCounter := 0, silenceCounter := 0 } := hcleared
    change { w₁.lib.timer with packetCounter := (0 : ℤ) } = _
    rw [htimer, hb]
    by_cases hn : burstDraw env w.lib = 0
    · rw [if_pos hn, hn]
      rfl
    · rw [if_neg hn, decide_eq_true hn]
      rfl

theorem silenceTimerFired_timer (hF : ∀ d, Within SameTimer (F.send d)) {w w' : World δ}
    (h : (silenceTimerFired env F).run w = .ok ((), w')) :
    w'.lib.timer = { w.lib.timer with silenceCounter := 0 } := by
  rcases run_bind_eq_ok h with ⟨_, w₁, hburst, h⟩
  cases h
  have hsame : w₁.lib.timer = w.lib.timer := by
    rcases defaultEbpPadAlgo_cases hburst with ⟨-, rfl⟩ | ⟨-, msg, w₂, status, hdraw, hsend⟩
    · rfl
    · rw [SameTimer.of_within (sendMessage_sameTimer hF msg) hsend,
        SameTimer.of_within drawDummy_sameTimer hdraw]
  change { w₁.lib.timer with silenceCounter := (0 : ℤ) } = _
  rw [hsame]

/-- The timers of the library, with their intervals. -/
def timersOf (t : Timer) : SRPPTimer :=
  { t with packetInterval := packetInterval, silenceInterval := silenceInterval }

/-- `timer_fired` in the library is a tick of these timers, as long as no counter overflows. -/
theorem timerFired_timer (hF : ∀ d, Within SameTimer (F.send d)) {w w' : World δ}
    (hpacket : w.lib.timer.packetCounter + 1 ≠ 2 ^ 31) (hsilence : w.lib.timer.silenceCounter + 1 ≠ 2 ^ 31)
    (h : (timerFired env F).run w = .ok ((), w')) :
    timersOf w'.lib.timer = (timersOf w.lib.timer).perform (.timerFired (bursts env w.lib)) := by
  let t := w.lib.timer
  let c : Timer := { t with packetCounter := t.packetCounter + 1, silenceCounter := t.silenceCounter + 1 }
  have hcounted : (timersOf t).counted = timersOf c := by
    have hp : intSucc t.packetCounter = t.packetCounter + 1 := if_neg hpacket
    have hs : intSucc t.silenceCounter = t.silenceCounter + 1 := if_neg hsilence
    simp [SRPPTimer.counted, timersOf, c, hp, hs]
  rw [timerFired, run_bind_ok (setLib_run _ _), run_get_bind] at h
  rcases run_bind_eq_ok h with ⟨_, w₁, hfirst, h⟩
  rw [run_get_bind] at h
  dsimp only at h
  -- the packet timer
  have hpart : timersOf w₁.lib.timer = (timersOf t).afterPacket (bursts env w.lib) := by
    unfold SRPPTimer.afterPacket
    have hfires : (timersOf t).packetFires = true ↔ c.packetCounter = packetInterval ∧ c.packetOn = true := by
      unfold SRPPTimer.packetFires
      rw [hcounted, Bool.and_eq_true, decide_eq_true_iff]
      rfl
    rw [hcounted]
    split_ifs at hfirst with hdue
    · rw [pktTimerFired_timer hF hfirst, if_pos (hfires.mpr hdue)]
      rfl
    · rw [if_neg fun hf => hdue (hfires.mp hf)]
      cases hfirst
      rfl
  -- the silence timer
  have hswitch : w₁.lib.timer.silenceOn = t.silenceOn := by
    have hon := congrArg (fun u => u.silenceOn) hpart
    unfold SRPPTimer.afterPacket at hon
    split_ifs at hon <;> exact hon
  have hiff : (timersOf t).silenceFires (bursts env w.lib) = true ↔
      w₁.lib.timer.silenceCounter = silenceInterval ∧ w₁.lib.timer.silenceOn = true := by
    unfold SRPPTimer.silenceFires
    rw [← hpart, Bool.and_eq_true, decide_eq_true_iff, hswitch]
    rfl
  unfold SRPPTimer.perform
  dsimp only
  split_ifs at h with hdue
  · rw [if_pos (hiff.mpr hdue), silenceTimerFired_timer hF h, ← hpart]
    rfl
  · rw [if_neg fun hf => hdue (hiff.mp hf)]
    cases h
    exact hpart

end Handler

/-! ## The timers keep firing -/

section Firing
variable {packetInterval silenceInterval : ℤ}

/-- In every state of a run, both timers fire within an interval of ticks for which they are on
and their counters are not reset from outside, exactly if every operation of the run that
switched a timer on found its counter below the interval. -/
theorem timersFire_iff (hp : 0 < packetInterval ∧ packetInterval < 2 ^ 31)
    (hs : 0 < silenceInterval ∧ silenceInterval < 2 ^ 31) (ops : List TimerOp) :
    (∀ u, u <+: ops → ∀ w,
      (PacketWindow ((SRPPTimer.new packetInterval silenceInterval).run u) w →
        FiresPacket ((SRPPTimer.new packetInterval silenceInterval).run u) w) ∧
      (SilenceWindow ((SRPPTimer.new packetInterval silenceInterval).run u) w →
        FiresSilence ((SRPPTimer.new packetInterval silenceInterval).run u) w)) ↔
    StartsBelow (SRPPTimer.new packetInterval silenceInterval) ops := by
  let t := SRPPTimer.new packetInterval silenceInterval
  have hpacket : t.packet.InRange := ⟨hp, by norm_num [t, SRPPTimer.new, SRPPTimer.packet]⟩
  have hsilence : t.silence.InRange := ⟨hs, by norm_num [t, SRPPTimer.new, SRPPTimer.silence]⟩
  have hfirst := SRPPTimer.inside_packet.keepsFiring_iff (s := t) trivial hpacket rfl (.timerFired false)
    (fun _ => rfl) ops
  have hsecond := SRPPTimer.inside_silence.keepsFiring_iff (s := t) hs.1 hsilence rfl (.timerFired false)
    (fun _ => rfl) ops
  rw [SRPPTimer.startsBelow_iff, ← hfirst, ← hsecond]
  have hpos (u : List TimerOp) : 0 < (t.run u).silenceInterval :=
    (SRPPTimer.run_intervals t u).2.symm ▸ hs.1
  constructor
  · intro h
    refine ⟨fun u hu w hw => ?_, fun u hu w hw => ?_⟩
    · exact SRPPTimer.firesPacket_iff.mp ((h u hu w).1 (SRPPTimer.packetWindow_iff.mpr hw))
    · exact (SRPPTimer.firesSilence_iff (hpos u)).mp ((h u hu w).2 (SRPPTimer.silenceWindow_iff.mpr hw))
  · rintro ⟨hpk, hsl⟩ u hu w
    refine ⟨fun hw => ?_, fun hw => ?_⟩
    · exact SRPPTimer.firesPacket_iff.mpr (hpk u hu w (SRPPTimer.packetWindow_iff.mp hw))
    · exact (SRPPTimer.firesSilence_iff (hpos u)).mpr (hsl u hu w (SRPPTimer.silenceWindow_iff.mp hw))

end Firing

/-- A session that starts at the first tick. -/
theorem timersFire_iff_early :
    FiresPacket ((SRPPTimer.new 300 400).run [.startPacket, .startSilence])
      (List.replicate 300 (.timerFired true)) := by
  have hbelow : StartsBelow (SRPPTimer.new 300 400) [.startPacket, .startSilence] := by
    intro u op hu
    rcases u with _ | ⟨o, _ | ⟨o', u⟩⟩
    · exact ⟨fun _ _ => ⟨by decide, by decide⟩, fun _ _ => ⟨by decide, by decide⟩⟩
    · rcases List.cons_prefix_cons.mp hu with ⟨rfl, -⟩
      exact ⟨fun _ _ => ⟨by decide, by decide⟩, fun _ _ => ⟨by decide, by decide⟩⟩
    · have hlen := hu.length_le
      simp at hlen
  have hfires := (timersFire_iff (by norm_num) (by norm_num) _).mpr hbelow
  exact (hfires _ List.prefix_rfl _).1 (SRPPTimer.packetWindow_iff.mpr
    (SRPPTimer.inside_packet.window_replicate trivial (fun _ => rfl) rfl (by decide)))

/-- A packet timer that is switched on when its counter has come to its interval. -/
theorem late_start {packetInterval : ℤ} (silenceInterval : ℤ) {n : ℕ} (hp : 0 < packetInterval)
    (hlate : packetInterval ≤ n) (hn : (n : ℤ) < 2 ^ 31) :
    ∃ w, PacketWindow ((SRPPTimer.new packetInterval silenceInterval).run
        (List.replicate n (.timerFired false) ++ [.startPacket])) w ∧
      ¬FiresPacket ((SRPPTimer.new packetInterval silenceInterval).run
        (List.replicate n (.timerFired false) ++ [.startPacket])) w := by
  let start := SRPPTimer.new packetInterval silenceInterval
  let ticks : List TimerOp := List.replicate n (.timerFired false)
  have hticks : (start.run ticks).packet = ⟨packetInterval, n, false⟩ := by
    let a : Alarm := ⟨packetInterval, 0, false⟩
    have hcount : a.count + n < 2 ^ 31 := by
      rw [show a.count = 0 from rfl, zero_add]
      exact hn
    have hoff : a.run (List.replicate n .tick) = ⟨packetInterval, 0 + n, false⟩ :=
      Alarm.run_ticks_off rfl hcount
    rw [zero_add] at hoff
    refine (SRPPTimer.inside_packet.run trivial ticks).2.trans ?_
    rw [Alarm.movesOf_replicate (fun _ => rfl)]
    exact hoff
  have hpacket : (start.run (ticks ++ [.startPacket])).packet = ⟨packetInterval, n, true⟩ := by
    have hrun : start.run (ticks ++ [.startPacket]) = (start.run ticks).perform .startPacket :=
      List.foldl_append
    rw [hrun, SRPPTimer.perform_packet, hticks]
    rfl
  have hwindow := SRPPTimer.inside_packet.window_replicate (o := .timerFired false)
    (s := start.run (ticks ++ [.startPacket])) trivial (fun _ => rfl) (by rw [hpacket])
    (by rw [hpacket]; exact hp)
  have hrange : Alarm.InRange ⟨packetInterval, n, true⟩ :=
    ⟨⟨hp, hlate.trans_lt hn⟩, ⟨(show (-2 ^ 31 : ℤ) ≤ n by omega), hn⟩⟩
  have hiff := SRPPTimer.inside_packet.fires_iff_armed trivial (by rw [hpacket]; exact hrange) hwindow
  refine ⟨_, SRPPTimer.packetWindow_iff.mpr hwindow, fun hfires => ?_⟩
  have harmed := hiff.mp (SRPPTimer.firesPacket_iff.mp hfires)
  rw [hpacket] at harmed
  exact absurd harmed.2 (not_lt.mpr hlate)

/-- A session that starts three hundred ticks after its timer has been constructed: the packet
timer does not fire in the next three hundred. -/
theorem late_start_never_fires :
    ¬∀ packetInterval silenceInterval : ℤ, 0 < packetInterval → 0 < silenceInterval → ∀ ops w,
      (PacketWindow ((SRPPTimer.new packetInterval silenceInterval).run ops) w →
        FiresPacket ((SRPPTimer.new packetInterval silenceInterval).run ops) w) ∧
      (SilenceWindow ((SRPPTimer.new packetInterval silenceInterval).run ops) w →
        FiresSilence ((SRPPTimer.new packetInterval silenceInterval).run ops) w) := by
  intro hclaim
  obtain ⟨w, hw, hsilent⟩ := @late_start 300 400 300 (by decide) (by decide) (by decide)
  exact hsilent ((hclaim 300 400 (by decide) (by decide) _ w).1 hw)

end Sqrkal.Library
