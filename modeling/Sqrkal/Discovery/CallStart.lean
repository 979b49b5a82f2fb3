import Sqrkal.Discovery.CallFlags

/-! # The messages of a run and the start of the media session

A message is handled when its packet is read, by the main loop or by a handler that waits
for the end of a session. In every run in which each of these messages may be handled in
the state it finds, the flags move by the law.
-/

namespace Sqrkal.Discovery
open Foundation Message Library Relation

/-! ## The messages of a run -/

section Messages
variable (host : Host)

def Packet.message (p : Packet) : SipMessage := ⟨sipText p, isInward host p⟩

/-- The message that is handled when a packet is read. A handler takes what looks like a
message of the library for one. -/
def taken (ports : List ℤ) (nested : Bool) (p : Option Packet) : List SipMessage :=
  match p with
  | none => []
  | some p =>
    if decide (IsSip ports p) && !(nested && decide (isSignalingBuffer (p.mem.shift 28) = 1)) then
      [p.message host]
    else []

/-- The messages handled so far and the packets that the handlers of a round may read. -/
structure Stage where
  ports : List ℤ
  queue : List (Option Packet)
  history : List SipMessage

/-- The messages handled when a part of these packets has been read. -/
def Stage.historyAt (s : Stage) (w : Process) : List SipMessage :=
  s.history ++ (s.queue.take (s.queue.length - w.ext.queue.length)).flatMap (taken host s.ports true)

/-- The stage of a round, with its own packet read. -/
def stageOf (w : Process) (history : List SipMessage) : Stage where
  ports := w.ext.sipPorts
  queue := w.ext.queue.tail
  history := history ++ taken host w.ext.sipPorts false (nextPacket w.ext)

/-- A handler reads only messages that may be handled in the state they find. -/
def Stage.condition (allowed : List SipMessage → Globals → SipMessage → Bool) (s : Stage) :
    Condition where
  arrival _ _ := true
  reading _ w := (taken host s.ports true (nextPacket w.ext)).all (allowed (s.historyAt host w) w.ext)

variable (env : Env) (allowed : List SipMessage → Globals → SipMessage → Bool)

/-- The steps of the process, together with the messages they handle. -/
inductive SipStep : Process × List SipMessage → Process × List SipMessage → Prop
  | arrive (w : Process) (history : List SipMessage) (p : Option Packet) :
      SipStep (w, history) ({ w with ext := { w.ext with queue := w.ext.queue ++ [p] } }, history)
  | round (n : ℕ) {w w' : Process} {history : List SipMessage} (hd : w.ext.isDiscovering = true)
      (ha : (taken host w.ext.sipPorts false (nextPacket w.ext)).all (allowed history w.ext) = true)
      (h : (checkedRound env ((stageOf host w history).condition host allowed)
        (processPacket env host) n).run w = .ok ((), w')) :
      SipStep (w, history) (w', (stageOf host w history).historyAt host w')
  | again (n : ℕ) (q : Packet) {w w' : Process} {history : List SipMessage}
      (hd : w.ext.isDiscovering = true) (hq : IsHeld w.ext q)
      (ha : (taken host w.ext.sipPorts false (some q)).all (allowed history w.ext) = true)
      (h : (checkedRound env ((stageOf host (refilled w q) history).condition host allowed)
        (processPacket env host) n).run (refilled w q) = .ok ((), w')) :
      SipStep (w, history) (w', (stageOf host (refilled w q) history).historyAt host w')
  | tick (n : ℕ) {w w' : Process} {history : List SipMessage}
      (h : (timerFired env (functors env host n)).run w = .ok ((), w')) :
      SipStep (w, history) (w', history)

end Messages

section Steps
variable {env : Env} {host : Host} {allowed : List SipMessage → Globals → SipMessage → Bool}

/-- The messages aside, these are steps of the process. -/
theorem SipStep.step {c c' : Process × List SipMessage} (h : SipStep host env allowed c c') :
    Step env host c.1 c'.1 := by
  cases h with
  | arrive w history p => exact .arrive p
  | round n hd _ h => exact .round n hd (checkedRound_refines n _ _ h)
  | again n q hd hq _ h => exact .again n q hd hq (checkedRound_refines n _ _ h)
  | tick n h => exact .tick n h

/-- A stage on which every message is allowed makes no difference to a round. -/
theorem stage_free (s : Stage) (n : ℕ) :
    checkedRound env (s.condition host fun _ _ _ => true) (processPacket env host) n =
      discoverRound env host n :=
  checkedRound_free (fun _ _ => List.all_eq_true.mpr fun _ _ => rfl) n

/-- Every step of the process handles some messages. -/
theorem Step.sip {w w' : Process} (h : Step env host w w') (history : List SipMessage) :
    ∃ history', SipStep host env (fun _ _ _ => true) (w, history) (w', history') := by
  cases h with
  | arrive p => exact ⟨history, .arrive w history p⟩
  | round n hd h =>
    refine ⟨_, .round n hd (List.all_eq_true.mpr fun _ _ => rfl) ?_⟩
    rw [stage_free]
    exact h
  | again n q hd hq h =>
    refine ⟨_, .again n q hd hq (List.all_eq_true.mpr fun _ _ => rfl) ?_⟩
    rw [stage_free]
    exact h
  | tick n h => exact ⟨history, .tick n h⟩

end Steps

/-! ## The flags at a stage -/

/-- A state reached by the handlers of a round. -/
structure OnStage (host : Host) (s : Stage) (w : Process) : Prop where
  ports : w.ext.sipPorts = s.ports
  queue : w.ext.queue <:+ s.queue
  justified : Justified (s.historyAt host w) w.ext.call

def Stage.stateAt (host : Host) (s : Stage) (w : Process) : CallState :=
  ⟨w.ext.call, s.historyAt host w⟩

/-- A state of the stage to which the flags have moved by the law. -/
structure Reaches (host : Host) (s : Stage) (c : CallState) (w : Process) : Prop
    extends OnStage host s w where
  moves : ReflTransGen CallMove c (s.stateAt host w)

/-- On the stage the flags move by the law. -/
def Obeys (host : Host) (s : Stage) (w w' : Process) : Prop :=
  OnStage host s w → Reaches host s (s.stateAt host w) w'

section Stages
variable {host : Host} {s : Stage} {c : CallState} {u v w w' : Process}

theorem Reaches.trans (h : Reaches host s c u) (h' : Reaches host s (s.stateAt host u) w) :
    Reaches host s c w :=
  ⟨h'.toOnStage, h.moves.trans h'.moves⟩

theorem Obeys.reaches (h : Obeys host s u w) (hu : Reaches host s c u) : Reaches host s c w :=
  hu.trans (h hu.toOnStage)

theorem OnStage.reaches (h : OnStage host s w) : Reaches host s (s.stateAt host w) w := ⟨h, .refl⟩

theorem obeys_of_steps (h : ReflTransGen (Obeys host s) w w') : Obeys host s w w' := by
  intro hw
  induction h with
  | refl => exact hw.reaches
  | tail _ hstep ih => exact hstep.reaches ih

/-- What a program that obeys is started on and what it returns. -/
theorem Reaches.within {α : Type} {x : Op α} {a : α} (hu : Reaches host s c u)
    (hx : Within (Obeys host s) x) (h : x.run u = .ok (a, w)) : Reaches host s c w :=
  (obeys_of_steps (hx u a w h)).reaches hu

theorem stateAt_keeps (h : KeepsCall u w) : s.stateAt host w = s.stateAt host u := by
  have hqueue : w.ext.queue = u.ext.queue := congrArg CallPart.queue h
  have hcall : w.ext.call = u.ext.call := congrArg CallPart.call h
  rw [Stage.stateAt, Stage.stateAt, Stage.historyAt, Stage.historyAt, hqueue, hcall]

theorem OnStage.keeps (hu : OnStage host s u) (h : KeepsCall u w) : OnStage host s w := by
  have hstate := @stateAt_keeps host s u w h
  refine ⟨(congrArg CallPart.sipPorts h).trans hu.ports, ?_, ?_⟩
  · rw [show w.ext.queue = u.ext.queue from congrArg CallPart.queue h]
    exact hu.queue
  · rw [show s.historyAt host w = s.historyAt host u from congrArg CallState.history hstate,
      show w.ext.call = u.ext.call from congrArg CallState.flags hstate]
    exact hu.justified

theorem obeys_of_keeps (h : KeepsCall u w) : Obeys host s u w := by
  intro hu
  refine ⟨hu.keeps h, ?_⟩
  rw [stateAt_keeps h]

theorem obeys_ignores : IgnoresMedia (Obeys host s) := keepsCall_ignores.mono fun _ _ => obeys_of_keeps

theorem obeys_filter : Permits (Obeys host s) Globals.beyondFilter :=
  keepsCall_filter.mono fun _ _ => obeys_of_keeps

theorem obeys_address : Permits (Obeys host s) Globals.beyondAddress :=
  keepsCall_address.mono fun _ _ => obeys_of_keeps

theorem obeys_kind : Permits (Obeys host s) Globals.beyondKind :=
  keepsCall_kind.mono fun _ _ => obeys_of_keeps

/-- A read adds the message it finds. -/
theorem historyAt_read (hw : w.ext.queue <:+ s.queue) (hu : u.ext.queue = w.ext.queue.tail) :
    s.historyAt host u = s.historyAt host w ++ taken host s.ports true (nextPacket w.ext) := by
  rcases hw with ⟨read, hread⟩
  unfold Stage.historyAt nextPacket
  rw [hu, ← hread]
  rcases w.ext.queue with _ | ⟨p, rest⟩
  · simp [taken]
  · have hone : (read ++ p :: rest).length - rest.length = read.length + 1 := by
      simp only [List.length_append, List.length_cons]
      omega
    have hnone : (read ++ p :: rest).length - (p :: rest).length = read.length := by
      simp only [List.length_append, List.length_cons]
      omega
    rw [List.tail_cons, hone, hnone, List.take_append_of_le_length le_rfl, List.take_length_add_append]
    cases p with
    | none => simp
    | some p => simp

/-- Where only the flags have changed, they need to be justified anew. -/
theorem Reaches.of_flags {f : CallFlags} {history : List SipMessage} (hports : u.ext.sipPorts = s.ports)
    (hqueue : u.ext.queue <:+ s.queue) (hhistory : s.historyAt host u = history)
    (h : HasFlags u f v) (hj : Justified history f) (hm : ReflTransGen CallMove c ⟨f, history⟩) :
    Reaches host s c v := by
  have hstate : s.stateAt host v = ⟨f, history⟩ := by
    have hq : v.ext.queue = u.ext.queue := congrArg CallPart.queue h
    have hf : v.ext.call = f := congrArg CallPart.call h
    rw [← hhistory, Stage.stateAt, Stage.historyAt, Stage.historyAt, hq, hf]
  refine ⟨⟨(congrArg CallPart.sipPorts h).trans hports, ?_, ?_⟩, ?_⟩
  · rw [show v.ext.queue = u.ext.queue from congrArg CallPart.queue h]
    exact hqueue
  · rw [show s.historyAt host v = history from congrArg CallState.history hstate,
      show v.ext.call = f from congrArg CallState.flags hstate]
    exact hj
  · rw [hstate]
    exact hm

/-- The end of a BYE. -/
theorem Reaches.forget (hu : Reaches host s c u)
    (h : HasFlags u { u.ext.call with sawInviteAlready := false } v) : Reaches host s c v :=
  .of_flags hu.ports hu.queue rfl h hu.justified.forget (hu.moves.tail .forget)

end Stages

/-! ## Handling a message -/

section Handling
variable {env : Env} {host : Host} {s : Stage} {F : Functors Globals} (hF : Holds (Obeys host s) F)
include hF

theorem stopSession_obeys : Within (Obeys host s) (stopSession env F) :=
  stopSession_within env obeys_ignores.toAllows hF

theorem stopDiscovering_obeys : Within (Obeys host s) (stopDiscovering env F) :=
  stopDiscovering_within env obeys_ignores.admits.quiet (stopSession_obeys hF)
    (addAllRules_within obeys_filter.rules _ _)

variable {u v : Process} {history : List SipMessage} {m : SipMessage} {r : ℤ}
variable (hports : u.ext.sipPorts = s.ports) (hqueue : u.ext.queue <:+ s.queue)
variable (hhistory : s.historyAt host u = history ++ [m])
variable (hmay : mayTake host history u.ext m = true)
include hports hqueue hhistory hmay

/-- A BYE finds the flags clear, or clears the one that is left before anything else is read. -/
theorem parseBye_reaches (hk : m.kind = .bye) (h : (parseBye env F).run u = .ok (r, v)) :
    Reaches host s ⟨u.ext.call, history⟩ v := by
  unfold mayTake at hmay
  rw [hk] at hmay
  simp only [Bool.and_eq_true, Bool.or_eq_true, Bool.not_eq_true'] at hmay
  rcases hmay with ⟨⟨⟨hi, ho⟩, ha⟩, hseen⟩
  have htake : CallMove ⟨u.ext.call, history⟩ ⟨u.ext.call, history ++ [m]⟩ := by
    have hnote : note m u.ext.call = u.ext.call := by
      unfold note
      rw [hk]
    have hmove := CallMove.take (s := ⟨u.ext.call, history⟩) m
    rwa [hnote] at hmove
  rcases parseBye_cases h with ⟨hsaw, rfl⟩ | ⟨-, t, t', ht, hstop, hv⟩
  · have hnone : v.ext.sawInviteAlready = false :=
      hseen.resolve_right fun hs => absurd (hsaw.symm.trans hs.2) (by decide)
    exact .of_flags hports hqueue hhistory rfl (justified_of_clear hi ho ha hnone) (.single htake)
  · rcases hstop with ⟨-, rfl⟩ | ⟨happly, status, hrun⟩
    · rw [ht.call] at hv
      have hflags : HasFlags u { u.ext.call with isSessionOn := false, sawInviteAlready := false } v :=
        ht.trans hv
      exact .of_flags hports hqueue hhistory hflags (justified_of_clear hi ho ha rfl)
        (((ReflTransGen.single htake).tail .stop).tail .forget)
    · have hnone : u.ext.sawInviteAlready = false :=
        hseen.resolve_right fun hs => absurd (happly.symm.trans hs.1) (by decide)
      have hbegin : Reaches host s ⟨u.ext.call, history⟩ t :=
        .of_flags hports hqueue hhistory ht (justified_of_clear hi ho ha hnone)
          ((ReflTransGen.single htake).tail .stop)
      exact (hbegin.within (stopSession_obeys hF) hrun).forget hv

/-- A message that may be handled moves the flags by the law. -/
theorem parseSip_reaches (hj : Justified history u.ext.call)
    (h : (parseSip env host F m.content m.inward).run u = .ok (r, v)) :
    Reaches host s ⟨u.ext.call, history⟩ v := by
  have hgo : m.kind = .invite → m.inward = true ∨ endsDiscovery host m.content = false := by
    intro hk
    unfold mayTake at hmay
    rw [hk] at hmay
    simpa using hmay
  rcases parseSip_cases hgo h with ⟨hk, hbye⟩ | ⟨hk, hnote⟩ | ⟨hk, hrest⟩
  · exact parseBye_reaches hF hports hqueue hhistory hmay hk hbye
  · exact .of_flags hports hqueue hhistory hnote (hj.take hk hmay) (.single (.take m))
  · have hb : m.kind ≠ .bye := by
      intro hbye
      rw [hbye] at hk
      exact hk.elim nofun nofun
    have htake := hj.take hb hmay
    rcases hrest with ⟨hcan, hstart⟩ | ⟨t, ht, hstop⟩
    · exact .of_flags hports hqueue hhistory hstart (justified_of_clear rfl rfl rfl rfl)
        (.single (.start m (htake.lawful hk hcan) hcan))
    · have hnoted : Reaches host s ⟨u.ext.call, history⟩ t :=
        .of_flags hports hqueue hhistory ht htake (.single (.take m))
      exact hnoted.within (stopDiscovering_obeys hF) hstop

omit hhistory hmay in
/-- A packet that is read moves the flags by the law. -/
theorem processPacket_reaches {p : Packet} {nested : Bool} {r : Option ℤ}
    (hsignal : nested = true → isSignalingBuffer (p.mem.shift 28) ≠ 1)
    (hhistory : s.historyAt host u = history ++ taken host s.ports nested (some p))
    (hmay : (taken host s.ports nested (some p)).all (mayTake host history u.ext) = true)
    (hj : Justified history u.ext.call) (h : (processPacket env host F p).run u = .ok (r, v)) :
    Reaches host s ⟨u.ext.call, history⟩ v := by
  have htaken : taken host s.ports nested (some p) =
      if IsSip s.ports p then [p.message host] else [] := by
    unfold taken
    cases nested with
    | false => simp
    | true => simp [hsignal rfl]
  have hp : ∀ (w : Process) (e : Event), IsOf p.id e → Obeys host s w { w with log := e :: w.log } :=
    fun _ _ _ => obeys_of_keeps rfl
  have hrtp := handleRtp_within env hp obeys_kind obeys_ignores.admits
    (prepareInbound_within_of_free env obeys_ignores hF)
    (prepareOutbound_within_of_free env obeys_ignores hF)
  rw [htaken] at hhistory hmay
  by_cases hs : IsSip s.ports p
  · rw [if_pos hs] at hhistory hmay
    rw [List.all_cons, List.all_nil, Bool.and_true] at hmay
    rcases processPacket_parsed env host obeys_ignores.admits.quiet hp obeys_kind hrtp
      (hports.symm ▸ hs) h with ⟨status, t, hparse, hrest⟩
    have hparsed : Reaches host s ⟨u.ext.call, history⟩ t :=
      parseSip_reaches (u := enterSip u p) hF hports hqueue hhistory hmay hj hparse
    exact (obeys_of_steps hrest).reaches hparsed
  · rw [if_neg hs, List.append_nil] at hhistory
    have hu : OnStage host s u := ⟨hports, hqueue, by rw [hhistory]; exact hj⟩
    have hwithin := processPacket_unparsed env host obeys_kind hrtp (hports.symm ▸ hs) r v h
    have hv := obeys_of_steps hwithin hu
    rwa [Stage.stateAt, hhistory] at hv

end Handling

/-! ## Reading packets -/

section Reading
variable {env : Env} {host : Host} {s : Stage}

theorem taken_of_empty {q : Option Packet} {ports : List ℤ} {nested : Bool}
    (h : ∀ p, q = some p → p.bytes = []) : taken host ports nested q = [] := by
  cases q with
  | none => rfl
  | some p =>
    have hshort : ¬IsSip ports p := by
      intro hs
      have hlength := hs.length
      rw [h p rfl] at hlength
      exact absurd hlength (by decide)
    simp [taken, hshort]

theorem receiveRtpMessage_obeys {F : Functors Globals} {w : Process} (hF : Holds (Obeys host s) F)
    (hc : (taken host s.ports true (nextPacket w.ext)).all (mayTake host (s.historyAt host w) w.ext) =
      true) : WithinAt (Obeys host s) w (receiveRtpMessage env host F) := by
  intro _ w' h
  refine .single fun hw => ?_
  have hports : (afterRead w).ext.sipPorts = s.ports := hw.ports
  have hqueue : (afterRead w).ext.queue <:+ s.queue := (List.tail_suffix _).trans hw.queue
  have hread : s.historyAt host (afterRead w) = _ := historyAt_read hw.queue rfl
  -- a read that finds no message leaves the state on the stage
  have hidle : taken host s.ports true (nextPacket w.ext) = [] →
      Reaches host s (s.stateAt host w) (afterRead w) := by
    intro hnone
    rw [hnone, List.append_nil] at hread
    exact .of_flags hports hqueue hread rfl hw.justified .refl
  rcases receiveWith_cases h with ⟨hempty, rfl⟩ | ⟨p, r, hnext, hsignal, hrun⟩ |
    ⟨p, r, hnext, hsignal, hrun⟩
  · exact hidle (taken_of_empty hempty)
  · refine (hidle ?_).within (processReceivedData_within env obeys_ignores.toAllows hF _ _) hrun
    rw [hnext]
    simp [taken, hsignal]
  · rw [hnext] at hread hc
    exact processPacket_reaches (u := afterRead w) hF hports hqueue (fun _ => hsignal) hread hc
      hw.justified hrun

/-- The functors of a round keep to the law at every depth. -/
theorem functors_obey (n : ℕ) (handled : List Packet) :
    Holds (Obeys host s) (checkedFunctors env host (s.condition host (mayTake host)) n handled) := by
  have hsend : ∀ d, Within (Obeys host s) (sendRtpMessage env d) :=
    sendRtpMessage_within env obeys_ignores.admits.quiet obeys_address
  refine ⟨fun d => by rw [checkedFunctors_send]; exact hsend d, ?_⟩
  refine checkedFunctors_receive (R := fun _ => Obeys host s)
    (fun _ => obeys_ignores.onLib (unusedMessage_within env)) (fun _ w F hc hs hr => ?_) n handled
  exact receiveRtpMessage_obeys ⟨fun d => by rw [hs]; exact hsend d, hr⟩ hc

end Reading

/-! ## Runs -/

section Runs
variable {env : Env} {host : Host} {c c' : Process × List SipMessage}

def callState (c : Process × List SipMessage) : CallState := ⟨c.1.ext.call, c.2⟩

/-- The flags are justified and have moved by the law. -/
theorem round_reaches {n : ℕ} {w w' : Process} {history : List SipMessage}
    (ha : (taken host w.ext.sipPorts false (nextPacket w.ext)).all (mayTake host history w.ext) = true)
    (hj : Justified history w.ext.call)
    (h : (checkedRound env ((stageOf host w history).condition host (mayTake host))
      (processPacket env host) n).run w = .ok ((), w')) :
    Reaches host (stageOf host w history) ⟨w.ext.call, history⟩ w' := by
  have hhistory : (stageOf host w history).historyAt host (dequeued (holding w)) =
      history ++ taken host w.ext.sipPorts false (nextPacket w.ext) := by
    simp [Stage.historyAt, stageOf, dequeued, holding]
  rcases roundWith_cases h with ⟨hempty, rfl⟩ | ⟨p, r, hnext, hrun⟩
  · rw [taken_of_empty hempty, List.append_nil] at hhistory
    exact .of_flags (u := dequeued (holding w)) rfl List.suffix_rfl hhistory rfl hj .refl
  · rw [hnext] at hhistory ha
    have hnested : false = true → isSignalingBuffer (p.mem.shift 28) ≠ 1 := fun hf => absurd hf (by decide)
    exact processPacket_reaches (u := dequeued (holding w)) (functors_obey n [p]) rfl List.suffix_rfl hnested
      hhistory ha hj hrun

/-- A step in which every message may be handled moves the flags by the law. -/
theorem sipStep_moves (h : SipStep host env (mayTake host) c c') (hj : Justified c.2 c.1.ext.call) :
    Justified c'.2 c'.1.ext.call ∧ ReflTransGen CallMove (callState c) (callState c') := by
  cases h with
  | arrive w history p => exact ⟨hj, .refl⟩
  | round n _ ha h =>
    have hr := round_reaches ha hj h
    exact ⟨hr.justified, hr.moves⟩
  | again n q _ _ ha h =>
    have hr := round_reaches (w := refilled _ q) ha hj h
    exact ⟨hr.justified, hr.moves⟩
  | @tick n w w' history h =>
    have hsend : ∀ d, Within KeepsCall ((functors env host n).send d) := by
      rw [functors_send]
      exact sendRtpMessage_within env keepsCall_ignores.admits.quiet keepsCall_address
    have hkeeps := keepsCall_of_steps
      (timerFired_within env keepsCall_ignores.toAllows hsend w () w' h)
    have hcall : w'.ext.call = w.ext.call := congrArg CallPart.call hkeeps
    unfold callState
    dsimp only at hj ⊢
    rw [hcall]
    exact ⟨hj, .refl⟩

theorem justified_run (h : ReflTransGen (SipStep host env (mayTake host)) c c')
    (hj : Justified c.2 c.1.ext.call) : Justified c'.2 c'.1.ext.call := by
  induction h with
  | refl => exact hj
  | tail _ hstep ih => exact (sipStep_moves hstep ih).1

theorem Begins.call {option : ℤ} {w : Process} (h : Begins env option w) : w.ext.call = {} := by
  rcases h.globals with ⟨-, ttl, hext⟩
  rw [hext]
  rfl

/-- In every run in which each message may be handled in the state it finds, the flags move
by the law, and a media session starts only with a lawful message. -/
theorem session_starts_lawfully {option : ℤ} {w₀ : Process} (h₀ : Begins env option w₀)
    (hrun : ReflTransGen (SipStep host env (mayTake host)) (w₀, []) c)
    (hstep : SipStep host env (mayTake host) c c') :
    ReflTransGen CallMove (callState c) (callState c') ∧
    (c.1.ext.isSessionOn = false → c'.1.ext.isSessionOn = true → ∃ history m,
      c.2 <+: history ∧ history ++ [m] <+: c'.2 ∧ Lawful history m) := by
  have hbegin : Justified [] w₀.ext.call := by
    rw [h₀.call]
    exact justified_of_clear rfl rfl rfl rfl
  have hmoves := (sipStep_moves hstep (justified_run hrun hbegin)).2
  exact ⟨hmoves, (CallMove.path hmoves).starts⟩

/-! ## Runs that can be evaluated -/

section Evaluation
variable (env host) (allowed : List SipMessage → Globals → SipMessage → Bool) (n : ℕ)

/-- A round, with the messages handled before and after it. -/
def callRound (history : List SipMessage) : Op (List SipMessage) := do
  let w ← get
  if w.ext.isDiscovering = true ∧
      (taken host w.ext.sipPorts false (nextPacket w.ext)).all (allowed history w.ext) = true then
    checkedRound env ((stageOf host w history).condition host allowed) (processPacket env host) n
    return (stageOf host w history).historyAt host (← get)
  else throw .exited

def callRounds : ℕ → List SipMessage → Op (List SipMessage)
  | 0, history => pure history
  | rounds + 1, history => do
    let history ← callRound env host allowed n history
    callRounds rounds history

/-- A session that is not on after some rounds is on after the next one. -/
def callSession (option : ℤ) (queue : List (Option Packet)) (rounds : ℕ) :
    Op (List SipMessage × List SipMessage) := do
  startDiscovering env option
  setGlobals fun g => { g with queue := g.queue ++ queue }
  let before ← callRounds env host allowed n rounds []
  if (← get).ext.isSessionOn then throw .exited
  else
    let after ← callRound env host allowed n before
    if (← get).ext.isSessionOn then return (before, after) else throw .exited

variable {env host allowed n}

theorem callRound_step {history after : List SipMessage} {w w' : Process}
    (h : (callRound env host allowed n history).run w = .ok (after, w')) :
    SipStep host env allowed (w, history) (w', after) := by
  rw [callRound, run_get_bind] at h
  split_ifs at h with hc
  · rcases run_bind_eq_ok h with ⟨_, u, hround, h⟩
    cases h
    exact .round n hc.1 hc.2 hround
  · cases h

theorem callRounds_run {rounds : ℕ} {history after : List SipMessage} {w w' : Process}
    (h : (callRounds env host allowed n rounds history).run w = .ok (after, w')) :
    ReflTransGen (SipStep host env allowed) (w, history) (w', after) := by
  induction rounds generalizing w history with
  | zero =>
    cases h
    exact .refl
  | succ rounds ih =>
    rcases run_bind_eq_ok h with ⟨next, u, hround, h⟩
    exact .head (callRound_step hround) (ih h)

theorem arrivals_run (queue : List (Option Packet)) (w : Process) (history : List SipMessage) :
    ReflTransGen (SipStep host env allowed) (w, history)
      ({ w with ext := { w.ext with queue := w.ext.queue ++ queue } }, history) := by
  induction queue generalizing w with
  | nil => simpa using ReflTransGen.refl
  | cons p rest ih =>
    have hrest := ih { w with ext := { w.ext with queue := w.ext.queue ++ [p] } }
    simp only [List.append_assoc, List.singleton_append] at hrest
    exact .head (.arrive w history p) hrest

/-- Of the histories between two that differ by one message there is one only. -/
theorem eq_of_between {history history' : List SipMessage} {m m' : SipMessage}
    (hfrom : history <+: history') (hto : history' ++ [m'] <+: history ++ [m]) :
    history' = history ∧ m' = m := by
  have hle := hto.length_le
  simp only [List.length_append, List.length_singleton] at hle
  have heq : history' = history := (hfrom.eq_of_length_le (by omega)).symm
  subst heq
  have hlast := hto.eq_of_length (by simp)
  exact ⟨rfl, by simpa using hlast⟩

/-- What the evaluation of a session says about the runs. -/
theorem callSession_run {option : ℤ} {queue : List (Option Packet)} {rounds : ℕ}
    {check : List SipMessage × List SipMessage → Bool}
    (h : yields (callSession env host allowed n option queue rounds) (atMain env) check = true) :
    ∃ w₀ c c', Begins env option w₀ ∧ ReflTransGen (SipStep host env allowed) (w₀, []) c ∧
      SipStep host env allowed c c' ∧ c.1.ext.isSessionOn = false ∧ c'.1.ext.isSessionOn = true ∧
      check (c.2, c'.2) = true := by
  rcases yields_run h with ⟨r, w', hrun, hr⟩
  rcases run_bind_eq_ok hrun with ⟨_, w₀, h₀, hrun⟩
  rw [run_bind_ok (setGlobals_run _ _)] at hrun
  rcases run_bind_eq_ok hrun with ⟨before, w, hbefore, hrun⟩
  rw [run_get_bind] at hrun
  split_ifs at hrun with hoff
  · cases hrun
  · rcases run_bind_eq_ok hrun with ⟨after, u, hafter, hrun⟩
    rw [run_get_bind] at hrun
    split_ifs at hrun with hon
    · cases hrun
      exact ⟨w₀, (w, before), (_, after), h₀, (arrivals_run queue w₀ []).trans (callRounds_run hbefore),
        callRound_step hafter, Bool.eq_false_iff.mpr hoff, hon, hr⟩
    · cases hrun

end Evaluation

/-! ## Two runs -/

/-- A call that is made and ended, and one that comes in. -/
def callThenCall : List (Option Packet) :=
  [some (sentSip 1 "INVITE sip:a@b c=IN IP4 1.2.3.4 Content-Type: application/sdp m=audio 4000 RTP/AVP 0"),
    some (receivedSip 2 "SIP/2.0 200 OK Content-Type: application/sdp m=audio 5000 RTP/AVP 0"),
    some (sentSip 3 "ACK sip:a@b Route: c"), some (receivedSip 4 "BYE sip:a"),
    some (receivedSip 5 "INVITE sip:d@e Content-Type: application/sdp m=audio 6000 RTP/AVP 0"),
    some (sentSip 6 "SIP/2.0 200 OK Content-Type: application/sdp m=audio 4000 RTP/AVP 0"),
    some (receivedSip 7 "ACK sip:d@e Route: c")]

/-- The second session starts by the law. -/
theorem second_call_starts_lawfully : ∃ w₀ c c', Begins (Env.constant 0) 0 w₀ ∧
    ReflTransGen (SipStep localHost (Env.constant 0) (mayTake localHost)) (w₀, []) c ∧
    SipStep localHost (Env.constant 0) (mayTake localHost) c c' ∧
    ∃ history m, c.2 <+: history ∧ history ++ [m] <+: c'.2 ∧ Lawful history m := by
  have hcheck : yields (callSession (Env.constant 0) localHost (mayTake localHost) 0 0 callThenCall 6)
      (atMain (Env.constant 0)) (fun r => decide (r.1.length = 6)) = true := by decide +kernel
  rcases callSession_run hcheck with ⟨w₀, c, c', h₀, hrun, hstep, hoff, hon, -⟩
  exact ⟨w₀, c, c', h₀, hrun, hstep, (session_starts_lawfully h₀ hrun hstep).2 hoff hon⟩

/-- A call that is rejected and acknowledged, and a 200 OK to something else. -/
def rejectedCall : List (Option Packet) :=
  [some (sentSip 1 "INVITE sip:a@b c=IN IP4 1.2.3.4 Content-Type: application/sdp m=audio 4000 RTP/AVP 0"),
    some (receivedSip 2 "SIP/2.0 486 Busy Here"), some (sentSip 3 "ACK sip:a@b Route: c"),
    some (receivedSip 4 "SIP/2.0 200 OK Content-Type: application/sdp m=audio 5000 RTP/AVP 0")]

/-- The flags of the rejected call start a session that is none. -/
theorem rejected_call_starts : ∃ w₀ c c', Begins (Env.constant 0) 0 w₀ ∧
    ReflTransGen (SipStep localHost (Env.constant 0) fun _ _ _ => true) (w₀, []) c ∧
    SipStep localHost (Env.constant 0) (fun _ _ _ => true) c c' ∧
    c.1.ext.isSessionOn = false ∧ c'.1.ext.isSessionOn = true ∧
    ¬∃ history m, c.2 <+: history ∧ history ++ [m] <+: c'.2 ∧ Lawful history m := by
  have hcheck : yields (callSession (Env.constant 0) localHost (fun _ _ _ => true) 0 0 rejectedCall 3)
      (atMain (Env.constant 0))
      (fun r => decide (∃ m ∈ r.2.getLast?, r.2 = r.1 ++ [m] ∧ ¬Lawful r.1 m)) = true := by
    decide +kernel
  rcases callSession_run hcheck with ⟨w₀, c, c', h₀, hrun, hstep, hoff, hon, hlast⟩
  rcases of_decide_eq_true hlast with ⟨m, -, hone, hlawless⟩
  refine ⟨w₀, c, c', h₀, hrun, hstep, hoff, hon, ?_⟩
  rintro ⟨history, m', hfrom, hto, hlawful⟩
  rw [hone] at hto
  rcases eq_of_between hfrom hto with ⟨rfl, rfl⟩
  exact hlawless hlawful

end Runs

end Sqrkal.Discovery
