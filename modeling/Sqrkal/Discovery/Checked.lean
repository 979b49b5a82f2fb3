import Sqrkal.Discovery.Run
import Sqrkal.Library.Refinement

/-! # Runs that meet a condition

A handler reads packets while another one is being processed, so a condition on the
steps of a run is one on every read: it sees the packets that are being handled and the
state before the read. Checked functors stop where the condition is not met and do the
same as the functors of the process otherwise, so a checked run is a run.
-/

namespace Sqrkal.Discovery
open Foundation Message Library Relation

/-- Which packets may arrive in a state, and in which state the next packet may be read
while others are being handled, the latest first. -/
structure Condition where
  arrival : Process → Packet → Bool
  reading : List Packet → Process → Bool

/-- The read packet is given to `process_packet`: one read by a handler only if it is no
signalling message. -/
def isProcessed (handled : List Packet) (p : Packet) : Bool :=
  handled.isEmpty || decide (isSignalingBuffer (p.mem.shift 28) ≠ 1)

/-- A SIP packet is among those being handled. -/
def InSip (ports : List ℤ) (handled : List Packet) : Prop := ∃ q ∈ handled, IsSip ports q

section Checked
variable (env : Env) (c : Condition) (process : Functors Globals → Packet → Op (Option ℤ))

/-- The functors of the process, held to the condition, with a program for the packets. -/
def checkedFunctorsWith : ℕ → List Packet → Functors Globals
  | 0, _ => { send := sendRtpMessage env, receive := onLib (unusedMessage env) }
  | n + 1, handled =>
    { send := sendRtpMessage env
      receive := do
        let w ← get
        if c.reading handled w = true then
          let F := checkedFunctorsWith n ((nextPacket w.ext).toList ++ handled)
          receiveWith env F (process F)
        else throw .exited }

/-- A round of the main loop with these functors. -/
def checkedRound (n : ℕ) : Op Unit :=
  roundWith fun p => process (checkedFunctorsWith env c process n [p]) p

/-- A step in which everything that arrives and every read meets the condition. A packet that
the main loop finds in its buffer again has to meet it as one that arrives. -/
inductive CheckedStepWith (w : Process) : Process → Prop
  | arrive (p : Option Packet) (h : p.all (c.arrival w) = true) :
      CheckedStepWith w { w with ext := { w.ext with queue := w.ext.queue ++ [p] } }
  | round (n : ℕ) {w' : Process} (hd : w.ext.isDiscovering = true) (hc : c.reading [] w = true)
      (h : (checkedRound env c process n).run w = .ok ((), w')) : CheckedStepWith w w'
  | again (n : ℕ) (q : Packet) {w' : Process} (hd : w.ext.isDiscovering = true) (hq : IsHeld w.ext q)
      (ha : c.arrival w q = true) (hc : c.reading [] (refilled w q) = true)
      (h : (checkedRound env c process n).run (refilled w q) = .ok ((), w')) : CheckedStepWith w w'
  | tick (n : ℕ) {w' : Process}
      (h : (timerFired env (checkedFunctorsWith env c process n [])).run w = .ok ((), w')) :
      CheckedStepWith w w'

end Checked

/-- The functors of the process itself, held to the condition. -/
abbrev checkedFunctors (env : Env) (host : Host) (c : Condition) : ℕ → List Packet → Functors Globals :=
  checkedFunctorsWith env c (processPacket env host)

/-- A step of the process itself that meets the condition. -/
abbrev CheckedStep (env : Env) (host : Host) (c : Condition) : Process → Process → Prop :=
  CheckedStepWith env c (processPacket env host)

/-! ## Refinement -/

section Refinement
variable {F G : Functors Globals} {process process' : Packet → Op (Option ℤ)}
variable (env : Env) (host : Host) (h : F.Refine G)

theorem roundWith_refines (hprocess : ∀ p, Refines (process p) (process' p)) :
    Refines (roundWith process) (roundWith process') := by
  refine .bind (.refl _) fun r => ?_
  cases r with
  | none => exact .refl _
  | some p => exact .ite (.refl _) (.bind (hprocess p) fun _ => .refl _)

include h

theorem receiveWith_refines (hprocess : ∀ p, Refines (process p) (process' p)) :
    Refines (receiveWith env F process) (receiveWith env G process') := by
  refine .bind (.refl _) fun _ => .bind (.refl _) fun r => ?_
  cases r with
  | none => exact .refl _
  | some p =>
    exact .ite (.refl _) (.ite (.bind (processReceivedData_refines env h _ _) fun _ => .refl _)
      (.bind (hprocess p) fun _ => .refl _))

theorem stopDiscovering_refines : Refines (stopDiscovering env F) (stopDiscovering env G) :=
  .bind (.refl _) fun _ =>
    .bind (.ite (.bind (stopSession_refines env h) fun _ => .refl _) (.refl _)) fun _ => .refl _

theorem parseProfile_refines (s : List Byte) (inward : Bool) (m : ℕ) :
    Refines (parseProfile env F s inward m) (parseProfile env G s inward m) :=
  .ite (.refl _) (.ite (.refl _) (.ite (.ite (.bind (stopDiscovering_refines env h) fun _ => .refl _)
    (.refl _)) (.refl _)))

theorem parseBye_refines : Refines (parseBye env F) (parseBye env G) := by
  refine .bind (.refl _) fun _ => .ite (.refl _) (.bind (.refl _) fun _ => .bind (.refl _) fun _ =>
    .bind (.refl _) fun _ => ?_)
  exact .bind (.ite (.bind (stopSession_refines env h) fun _ => .refl _) (.refl _)) fun _ => .refl _

theorem parseOk_refines (s : List Byte) (inward : Bool) :
    Refines (parseOk env host F s inward) (parseOk env host G s inward) :=
  .bind (.refl _) fun _ => .bind (.ite (.bind (.refl _) fun m => parseProfile_refines env h s inward m)
    (.refl _)) fun _ => .refl _

theorem parseInvite_refines (s : List Byte) (inward : Bool) :
    Refines (parseInvite env host F s inward) (parseInvite env host G s inward) :=
  .bind (.refl _) fun _ => .bind (.refl _) fun m =>
    .bind (parseProfile_refines env h s inward m) fun _ => .refl _

theorem parseSip_refines (s : List Byte) (inward : Bool) :
    Refines (parseSip env host F s inward) (parseSip env host G s inward) :=
  .ite (parseBye_refines env h) (.ite (.refl _) (.ite (parseOk_refines env host h s inward)
    (.ite (parseInvite_refines env host h s inward) (.refl _))))

theorem handleSip_refines (packet : ℕ) (buff : Mem) (bytesRead : ℤ) (inward : Bool) :
    Refines (handleSip env host F packet buff bytesRead inward)
      (handleSip env host G packet buff bytesRead inward) :=
  .ite (.refl _) (.bind (parseSip_refines env host h _ inward) fun _ => .refl _)

theorem tryStart_refines : Refines (tryStart env F) (tryStart env G) := by
  have hstart : Refines (startSrpp env F) (startSrpp env G) :=
    .bind (startSession_refines env h) fun _ => .bind (.refl _) fun _ =>
      .ite (.bind (.refl _) fun _ => .bind (stopSession_refines env h) fun _ => .refl _) (.refl _)
  exact .bind hstart fun _ => .refl _

theorem inboundRtp_refines (packet : ℕ) (buff : Mem) (bytesRead offset : ℤ) (source : BitVec 16) :
    Refines (inboundRtp env F packet buff bytesRead offset source)
      (inboundRtp env G packet buff bytesRead offset source) := by
  refine .bind (.bind (.refl _) fun _ => .bind (.ite ?_ (.refl _)) fun _ => .bind (.refl _) fun _ =>
    .bind (.refl _) fun _ => .bind (.ite (tryStart_refines env h) (.refl _)) fun _ => .refl _)
    fun _ => .refl _
  exact .bind (processReceivedData_refines env h _ _) fun _ => .refl _

theorem outboundRtp_refines (packet : ℕ) (buff : Mem) (bytesRead offset : ℤ) :
    Refines (outboundRtp env F packet buff bytesRead offset)
      (outboundRtp env G packet buff bytesRead offset) := by
  refine .bind (.refl _) fun _ => .bind (.refl _) fun _ => .ite (.refl _) (.bind ?_ fun _ => .refl _)
  exact .bind (.refl _) fun _ => .bind (.refl _) fun _ =>
    .bind (.ite (tryStart_refines env h) (.refl _)) fun _ => .refl _

theorem processPacket_refines (p : Packet) :
    Refines (processPacket env host F p) (processPacket env host G p) := by
  refine .ite (.refl _) (.ite (.refl _) (.bind (.refl _) fun _ => .bind (.refl _) fun _ =>
    .ite (.refl _) ?_))
  refine .bind (.ite (handleSip_refines env host h _ _ _ _) (.refl _)) fun _ => .bind (.refl _) fun _ =>
    .ite (.ite ?_ (outboundRtp_refines env h _ _ _ _)) (.refl _)
  exact .bind (inboundRtp_refines env h _ _ _ _ _) fun _ => .refl _

end Refinement

section Runs
variable {env : Env} {host : Host} {c : Condition}
variable {process : Functors Globals → Packet → Op (Option ℤ)}

theorem checkedFunctors_refine (n : ℕ) (handled : List Packet) :
    (checkedFunctors env host c n handled).Refine (functors env host n) := by
  induction n generalizing handled with
  | zero => exact ⟨fun _ => .refl _, .refl _⟩
  | succ n ih =>
    exact ⟨fun _ => .refl _, .guard _ fun w => receiveWith_refines env (ih _) fun p =>
      processPacket_refines env host (ih _) p⟩

/-- A condition that always holds makes no difference. -/
theorem checkedFunctors_free (hc : ∀ handled w, c.reading handled w = true) (n : ℕ)
    (handled : List Packet) : checkedFunctors env host c n handled = functors env host n := by
  induction n generalizing handled with
  | zero => rfl
  | succ n ih =>
    simp only [checkedFunctorsWith, functors, hc, ih, if_true]
    rfl

theorem checkedRound_free (hc : ∀ handled w, c.reading handled w = true) (n : ℕ) :
    checkedRound env c (processPacket env host) n = discoverRound env host n := by
  unfold checkedRound discoverRound
  simp only [checkedFunctors_free hc]

theorem checkedRound_refines (n : ℕ) :
    Refines (checkedRound env c (processPacket env host) n) (discoverRound env host n) :=
  roundWith_refines fun p => processPacket_refines env host (checkedFunctors_refine n [p]) p

/-- A checked step is a step. -/
theorem CheckedStepWith.step {w w' : Process} (h : CheckedStep env host c w w') :
    Step env host w w' := by
  cases h with
  | arrive p _ => exact .arrive p
  | round n hd _ h => exact .round n hd (checkedRound_refines n w _ h)
  | again n q hd hq _ _ h => exact .again n q hd hq (checkedRound_refines n (refilled w q) _ h)
  | tick n h => exact .tick n (timerFired_refines env (checkedFunctors_refine n []) w _ h)

/-- A checked run is a run. -/
theorem checked_run {w w' : Process} (h : ReflTransGen (CheckedStep env host c) w w') :
    ReflTransGen (Step env host) w w' := by
  induction h with
  | refl => exact .refl
  | tail _ hstep ih => exact ih.tail hstep.step

/-! ## Checked runs that can be evaluated -/

section Evaluation
variable (env c process)

/-- Packets arrive one by one. -/
def arriveAll : List (Option Packet) → Op Unit
  | [] => pure ()
  | p :: rest => do
    let w ← get
    if p.all (c.arrival w) = true then
      setGlobals fun g => { g with queue := g.queue ++ [p] }
      arriveAll rest
    else throw .exited

/-- The main loop, held to the condition, for a number of rounds. -/
def checkedLoop (n : ℕ) : ℕ → Op Unit
  | 0 => pure ()
  | rounds + 1 => do
    let w ← get
    if w.ext.isDiscovering = true ∧ c.reading [] w = true then
      checkedRound env c process n
      checkedLoop n rounds
    else throw .exited

end Evaluation

theorem arriveAll_run {queue : List (Option Packet)} {w w' : Process}
    (h : (arriveAll c queue).run w = .ok ((), w')) :
    ReflTransGen (CheckedStepWith env c process) w w' := by
  induction queue generalizing w with
  | nil =>
    cases h
    exact .refl
  | cons p rest ih =>
    rw [arriveAll, run_get_bind] at h
    split_ifs at h with hc
    · rw [run_bind_ok (setGlobals_run _ _)] at h
      exact .head (.arrive p hc) (ih h)
    · cases h

theorem checkedLoop_run {n rounds : ℕ} {w w' : Process}
    (h : (checkedLoop env c process n rounds).run w = .ok ((), w')) :
    ReflTransGen (CheckedStepWith env c process) w w' := by
  induction rounds generalizing w with
  | zero =>
    cases h
    exact .refl
  | succ rounds ih =>
    rw [checkedLoop, run_get_bind] at h
    split_ifs at h with hc
    · rcases run_bind_eq_ok h with ⟨_, u, hround, hrest⟩
      exact .head (.round n hc.1 hc.2 hround) (ih hrest)
    · cases h

/-- A start, some arrivals and some rounds. -/
theorem checked_session {option : ℤ} {queue : List (Option Packet)} {n rounds : ℕ}
    {check : Process → Bool} (h : endsIn (do
      startDiscovering env option
      arriveAll c queue
      checkedLoop env c process n rounds) (atMain env) check = true) :
    ∃ w₀ w, Begins env option w₀ ∧ ReflTransGen (CheckedStepWith env c process) w₀ w ∧ check w = true := by
  rcases endsIn_run h with ⟨_, w, hrun, hw⟩
  rcases run_bind_eq_ok hrun with ⟨_, w₀, h₀, hrun⟩
  rcases run_bind_eq_ok hrun with ⟨_, w₁, h₁, h₂⟩
  exact ⟨w₀, w, h₀, (arriveAll_run h₁).trans (checkedLoop_run h₂), hw⟩

/-! ## Relations that checked functors keep to -/

@[simp] theorem checkedFunctors_send (n : ℕ) (handled : List Packet) :
    (checkedFunctorsWith env c process n handled).send = sendRtpMessage env := by
  cases n with
  | zero => rfl
  | succ n => rfl

/-- If reading a packet under the condition keeps to a relation, given that the packets
read meanwhile do, then so does the checked functor at every depth. The relation may
depend on what is being handled. -/
theorem checkedFunctors_receive {R : List Packet → Process → Process → Prop}
    (hidle : ∀ handled, Within (R handled) (onLib (unusedMessage env) : Op Unit))
    (hreceive : ∀ handled w F, c.reading handled w = true → F.send = sendRtpMessage env →
      Within (R ((nextPacket w.ext).toList ++ handled)) F.receive →
        WithinAt (R handled) w (receiveWith env F (process F))) (n : ℕ) (handled : List Packet) :
    Within (R handled) (checkedFunctorsWith env c process n handled).receive := by
  induction n generalizing handled with
  | zero => exact hidle handled
  | succ n ih =>
    refine .get_bind fun w => ?_
    split_ifs with hc
    · exact hreceive handled w _ hc (checkedFunctors_send _ _) (ih _)
    · exact Within.throw _ w

end Runs

end Sqrkal.Discovery
