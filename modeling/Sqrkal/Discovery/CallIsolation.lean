import Sqrkal.Discovery.Run

/-! # Calls and handshakes

A BYE resets counters and rules but neither `apply_srpp` nor the state of the
signalling. So a call is separated from the next one only if no handshake has
completed before its BYE; then every use of SRPP after the BYE has a handshake of
its own.
-/

namespace Sqrkal.Discovery
open Foundation Message Library Relation

/-- Events that show SRPP in use: a conversion, or a successful `start_SRPP`. -/
def UsesSrpp : Event → Prop
  | .converted _ => True
  | .started status => status = 0
  | _ => False

instance : DecidablePred UsesSrpp := fun e => by
  cases e <;> unfold UsesSrpp <;> infer_instance

/-- A handshake has completed since the last BYE, if there was one. The log starts
with the latest event. -/
def SinceBye : List Event → Bool
  | [] => true
  | .completed :: _ => true
  | .byeHandled _ _ :: _ => false
  | _ :: log => SinceBye log

/-- Every use of SRPP after a BYE has a completed handshake in between. -/
def Isolated (log : List Event) : Prop :=
  ∀ later e mid applied complete earlier,
    log = later ++ e :: (mid ++ .byeHandled applied complete :: earlier) → UsesSrpp e →
      .completed ∈ mid

/-- Every BYE was handled with `apply_srpp` and `signaling_complete` not set. -/
def QuietByes (log : List Event) : Prop :=
  ∀ applied complete, .byeHandled applied complete ∈ log → applied = false ∧ complete = false

section Log
variable {e : Event} {log : List Event}

theorem SinceBye.completed_mem {mid earlier : List Event} {applied complete : Bool}
    (h : SinceBye (mid ++ .byeHandled applied complete :: earlier) = true) : .completed ∈ mid := by
  induction mid with
  | nil => exact absurd h (by simp [SinceBye])
  | cons e mid ih =>
    cases e with
    | completed => exact List.mem_cons_self
    | byeHandled a c => exact absurd h (by simp [SinceBye])
    | started s => exact List.mem_cons_of_mem _ (ih h)
    | converted p => exact List.mem_cons_of_mem _ (ih h)
    | handedOver p => exact List.mem_cons_of_mem _ (ih h)
    | fragmented p => exact List.mem_cons_of_mem _ (ih h)
    | rawMessage p d => exact List.mem_cons_of_mem _ (ih h)
    | rtpMessage d => exact List.mem_cons_of_mem _ (ih h)

/-- One more event keeps the calls apart if it uses SRPP only after a handshake. -/
theorem Isolated.cons (h : Isolated log) (he : UsesSrpp e → SinceBye log = true) :
    Isolated (e :: log) := by
  intro later e' mid applied complete earlier hlog huse
  cases later with
  | nil =>
    rcases List.cons.inj hlog with ⟨rfl, rfl⟩
    exact SinceBye.completed_mem (he huse)
  | cons e'' later => exact h later e' mid applied complete earlier (List.cons.inj hlog).2 huse

theorem sinceBye_plain (he : IsPlain e) : SinceBye (e :: log) = SinceBye log := by
  cases e with
  | completed => exact he.elim
  | byeHandled a c => exact he.elim
  | converted p => exact he.elim
  | started s => rfl
  | handedOver p => rfl
  | fragmented p => rfl
  | rawMessage p d => rfl
  | rtpMessage d => rfl

theorem not_usesSrpp_plain (he : IsPlain e) : ¬UsesSrpp e := by
  cases e with
  | started s => exact he
  | converted p => exact fun _ => he
  | _ => exact id

end Log

/-- What holds along every run. -/
structure Calls (w : Process) : Prop where
  applied : w.ext.applySrpp = true → w.lib.flags.signalingComplete = true
  handshake : QuietByes w.log → w.lib.flags.signalingComplete = true → SinceBye w.log = true
  isolated : QuietByes w.log → Isolated w.log

theorem QuietByes.tail {e : Event} {log : List Event} (h : QuietByes (e :: log)) : QuietByes log :=
  fun a c hm => h a c (List.mem_cons_of_mem _ hm)

theorem calls_effect {w w' : Process} (h : Effect w w') (hi : Calls w) : Calls w' := by
  cases h with
  | lib l h =>
    exact
      { applied := fun ha => h.complete.trans (hi.applied ha)
        handshake := fun hq hc => hi.handshake hq (h.complete.symm.trans hc)
        isolated := hi.isolated }
  | complete =>
    exact
      { applied := fun _ => rfl
        handshake := fun _ _ => rfl
        isolated := fun hq => (hi.isolated hq.tail).cons fun hu => hu.elim }
  | globals g h =>
    exact
      { applied := fun ha => hi.applied (h.symm.trans ha)
        handshake := hi.handshake
        isolated := hi.isolated }
  | plain e h =>
    exact
      { applied := hi.applied
        handshake := fun hq hc => (sinceBye_plain h).trans (hi.handshake hq.tail hc)
        isolated := fun hq => (hi.isolated hq.tail).cons fun hu => (not_usesSrpp_plain h hu).elim }
  | started h =>
    exact
      { applied := hi.applied
        handshake := fun hq hc => hi.handshake hq.tail hc
        isolated := fun hq => (hi.isolated hq.tail).cons fun _ => hi.handshake hq.tail h }
  | apply h =>
    exact { applied := fun _ => h, handshake := hi.handshake, isolated := hi.isolated }
  | converted p h =>
    exact
      { applied := hi.applied
        handshake := fun hq hc => hi.handshake hq.tail hc
        isolated := fun hq => (hi.isolated hq.tail).cons fun _ =>
          hi.handshake hq.tail (hi.applied h) }
  | bye applied complete h =>
    refine
      { applied := hi.applied
        handshake := fun hq hc => ?_
        isolated := fun hq => (hi.isolated hq.tail).cons fun hu => hu.elim }
    -- such a BYE found the signalling not complete, and left it so
    rcases hq applied complete List.mem_cons_self with ⟨ha, hcf⟩
    have hw := h ha
    rw [hcf] at hw
    exact absurd (hw.symm.trans hc) (by decide)

variable {env : Env} {host : Host}

theorem calls_begin {option : ℤ} {w : Process} (h : Begins env option w) : Calls w := by
  rcases h.facts with ⟨hlog, happly⟩
  refine ⟨fun ha => absurd (happly.symm.trans ha) (by decide), fun _ _ => by rw [hlog]; rfl, fun _ => ?_⟩
  intro later e mid applied complete earlier hl
  rw [hlog] at hl
  exact absurd hl (by simp)

/-- If no handshake had completed at any BYE, every use of SRPP after a BYE follows a
handshake that completed after that BYE. -/
theorem isolated_of_quietByes {option : ℤ} {w₀ w : Process} (h₀ : Begins env option w₀)
    (hrun : ReflTransGen (Step env host) w₀ w) (hq : QuietByes w.log) : Isolated w.log :=
  (run_invariant (fun _ _ h hi => calls_effect h hi) hrun (calls_begin h₀)).isolated hq

/-! ## Two runs -/

/-- The check of a log for isolated calls. -/
def isolatedCheck : List Event → Bool
  | [] => true
  | e :: log => (!decide (UsesSrpp e) || SinceBye log) && isolatedCheck log

theorem exists_bye {log : List Event} (h : SinceBye log = false) : ∃ mid applied complete earlier,
    log = mid ++ .byeHandled applied complete :: earlier ∧ .completed ∉ mid := by
  induction log with
  | nil => exact absurd h (by simp [SinceBye])
  | cons e log ih =>
    -- an event that is neither a BYE nor a handshake only makes the list longer
    have hmore : ∀ e : Event, e ≠ .completed → SinceBye log = false → ∃ mid applied complete earlier,
        e :: log = mid ++ .byeHandled applied complete :: earlier ∧ .completed ∉ mid := by
      intro e hne hs
      rcases ih hs with ⟨mid, a, c, earlier, hlog, hm⟩
      refine ⟨e :: mid, a, c, earlier, by rw [hlog, List.cons_append], ?_⟩
      simp [hm, Ne.symm hne]
    cases e with
    | completed => exact absurd h (by simp [SinceBye])
    | byeHandled a c => exact ⟨[], a, c, log, rfl, List.not_mem_nil⟩
    | _ => exact hmore _ (by simp) h

theorem isolatedCheck_of_isolated {log : List Event} (h : Isolated log) : isolatedCheck log = true := by
  induction log with
  | nil => rfl
  | cons e log ih =>
    have htail : Isolated log := fun later e' mid a c earlier hlog =>
      h (e :: later) e' mid a c earlier (by rw [hlog, List.cons_append])
    rw [isolatedCheck, ih htail, Bool.and_true, Bool.or_eq_true, Bool.not_eq_true', decide_eq_false_iff_not]
    by_cases hu : UsesSrpp e
    · right
      by_contra hs
      rcases exists_bye (by simpa using hs) with ⟨mid, a, c, earlier, hlog, hm⟩
      exact hm (h [] e mid a c earlier (by rw [hlog, List.nil_append]) hu)
    · exact Or.inl hu

/-- A HELLOACK, a BYE with its acknowledgement, and a media packet. -/
def twoCalls : List (Option Packet) :=
  [some (udpPacket 1 5000 (signalBytes 13 (helloAckOptions 1464))), none,
    some (udpPacket 2 5060 (text "BYE sip:a")), some (udpPacket 3 5000 (signalBytes 23 [])),
    some (udpPacket 4 5000 [])]

/-- After the BYE of the first call SRPP is started and applied without a handshake. -/
theorem second_call_converted : ∃ w₀ w, Begins (Env.constant 0) 0 w₀ ∧
    ReflTransGen (Step (Env.constant 0) localHost) w₀ w ∧ ¬Isolated w.log := by
  have hcheck : endsIn (session (Env.constant 0) localHost 0 twoCalls 1 3) (atMain (Env.constant 0))
      (fun w => !isolatedCheck w.log) = true := by decide +kernel
  rcases endsIn_run hcheck with ⟨_, w, hrun, hlog⟩
  rcases session_run hrun with ⟨w₀, h₀, hsteps⟩
  refine ⟨w₀, w, h₀, hsteps, fun hi => ?_⟩
  rw [isolatedCheck_of_isolated hi] at hlog
  exact absurd hlog (by decide)

/-- The check of a log for BYEs that find signalling not complete. -/
def quietCheck (log : List Event) : Bool :=
  log.all fun
    | .byeHandled applied complete => !applied && !complete
    | _ => true

theorem quietByes_of_check {log : List Event} (h : quietCheck log = true) : QuietByes log := by
  intro applied complete hm
  simpa using List.all_eq_true.mp h _ hm

/-- A BYE comes before the only handshake. -/
theorem isolated_after_early_bye : ∃ w₀ w, Begins (Env.constant 0) 0 w₀ ∧
    ReflTransGen (Step (Env.constant 0) localHost) w₀ w ∧ QuietByes w.log ∧
    .byeHandled false false ∈ w.log ∧ .converted 2 ∈ w.log ∧ Isolated w.log := by
  have hcheck : endsIn (session (Env.constant 0) localHost 0
      [some (udpPacket 1 5060 (text "BYE sip:a")),
        some (udpPacket 2 5000 (signalBytes 13 (helloAckOptions 1464)))] 1 2) (atMain (Env.constant 0))
      (fun w => quietCheck w.log && decide (.byeHandled false false ∈ w.log ∧ .converted 2 ∈ w.log)) =
        true := by decide +kernel
  rcases endsIn_run hcheck with ⟨_, w, hrun, hlog⟩
  rcases session_run hrun with ⟨w₀, h₀, hsteps⟩
  rw [Bool.and_eq_true, decide_eq_true_eq] at hlog
  have hq := quietByes_of_check hlog.1
  exact ⟨w₀, w, h₀, hsteps, hq, hlog.2.1, hlog.2.2, isolated_of_quietByes h₀ hsteps hq⟩

end Sqrkal.Discovery
