import Sqrkal.Handshake.Endpoint
import Sqrkal.Handshake.Received

/-! # The negotiated parameters

Key and packet size come from three parsers: the one of the SDP options, which computes
whether they are valid and whose result nobody asks for, and those of HELLO and HELLOACK,
which do not ask either. A session stays valid as long as what the peer announces is.
-/

namespace Sqrkal.Handshake
open Foundation Mem Message Library Relation

/-! ## Negotiation through SDP -/

/-- The class `sdp_srpp`. It has no constructor: all its members start with any value. -/
structure SdpSrpp where
  valid : ℤ
  srppActive : ℤ
  options : List Byte
  key : ℤ
  maxpacketlength : ℤ

/-- `process_sdp_srpp`. Offer and answer are handled alike. -/
def SdpSrpp.processSdpSrpp (sdp : SdpSrpp) (_offerOrAnswer : ℤ) (options : List Byte) :
    ℤ × SdpSrpp :=
  let key := atoi (firstField options)
  let size := atoi (firstField (afterComma options))
  let maxpacketlength := if size < sdp.maxpacketlength then size else sdp.maxpacketlength
  (0, { sdp with
    options := options, key := key, maxpacketlength := maxpacketlength
    valid := if key < 0 ∨ maxpacketlength < 0 then 0 else 1 })

section Start
variable {δ : Type} (env : Env) (F : Functors δ)

/-- What `start_session(sdp)` takes over from the SDP options. -/
def adopt (sdp : SdpSrpp) (l : Lib) : Lib :=
  { setKey sdp.key l with
    session := { (setKey sdp.key l).session with maxpacketsize := sdp.maxpacketlength }
    maxpacketsize := sdp.maxpacketlength }

/-- `start_session(sdp)`. -/
def startSessionSdp (sdp : SdpSrpp) : World.Op δ ℤ := do
  setLib fun l => { l with signalingBySrpp := false }
  if sdp.srppActive = 0 then
    setLib fun l => { l with srppEnabled := 0 }
    stopSession env F
  else
    setLib (adopt sdp)
    setFlags fun f => { f with signalingComplete := true }
    setLib fun l =>
      { l with srppEnabled := 1, timer := { l.timer with packetOn := true, silenceOn := true } }
    return 0

end Start

/-! ## Valid parameters -/

/-- The condition `sdp_srpp` tests, for a session. -/
def Session.Valid (s : Session) : Prop := 0 ≤ s.encryptionKey.toInt ∧ 0 ≤ s.maxpacketsize

instance (s : Session) : Decidable (Session.Valid s) := inferInstanceAs (Decidable (_ ∧ _))

/-- With a valid key the codec's test `key > 0` makes no difference: a pad count is masked
like everything `encrypt` masks. -/
theorem Session.Valid.maskPadCount {s : Session} (h : Session.Valid s) (n : BitVec 32) :
    maskPadCount n s.encryptionKey 0 = n ^^^ s.encryptionKey := by
  rw [Message.maskPadCount]
  split_ifs with hk
  · rfl
  · have hz : s.encryptionKey.toInt = 0 := le_antisymm (not_lt.mp fun hp => hk ⟨hp, rfl⟩) h.1
    rw [BitVec.eq_of_toInt_eq (hz.trans BitVec.toInt_zero.symm), BitVec.xor_zero]

theorem atoi_range (s : List Byte) : -2 ^ 31 ≤ atoi s ∧ atoi s < 2 ^ 31 := by
  unfold atoi
  constructor
  · exact Int.le_bmod (by norm_num)
  · exact Int.bmod_lt (by norm_num)

/-- An `int` stored in the key and read back. -/
theorem setKey_toInt {key : ℤ} (h : -2 ^ 31 ≤ key ∧ key < 2 ^ 31) (l : Lib) :
    (setKey key l).session.encryptionKey.toInt = key := by
  rw [setKey, BitVec.toInt_ofInt]
  exact Int.bmod_eq_of_le (by omega) (by omega)

theorem Session.Valid.setKey {l : Lib} (h : Session.Valid l.session) {key : ℤ}
    (hr : -2 ^ 31 ≤ key ∧ key < 2 ^ 31) (hk : 0 ≤ key) : Session.Valid (setKey key l).session :=
  ⟨by rwa [setKey_toInt hr], h.2⟩

theorem Session.Valid.lower {l : Lib} (h : Session.Valid l.session) {size : ℤ} (hs : 0 ≤ size) :
    Session.Valid (lowerMaxpacketsize size l).session := by
  unfold lowerMaxpacketsize
  split_ifs
  · exact ⟨h.1, hs⟩
  · exact h

/-! ## What a handler does to the session

It constructs, sends and notes, and leaves the session alone, but for the key that
`sendHelloMessage` draws.
-/

section Handlers
variable {δ α : Type} {R : World δ → World δ → Prop} {F : Functors δ} (env : Env)

/-- A relation that allows everything that leaves the session alone, and a drawn key. -/
structure AllowsNegotiation (R : World δ → World δ → Prop) : Prop where
  quiet : ∀ (w : World δ) (l : Lib) (log : List Event), l.session = w.lib.session → R w ⟨l, w.ext, log⟩
  drawn : ∀ (w : World δ) (key : ℕ), key < 65535 → R w { w with lib := setKey key w.lib }

variable (hR : AllowsNegotiation R) (hF : Holds R F)

section Operations
include hR

theorem AllowsNegotiation.setLib {f : Lib → Lib} (hf : ∀ l, (f l).session = l.session) :
    Within R (setLib f) :=
  .modify fun w => hR.quiet w _ w.log (hf w.lib)

theorem AllowsNegotiation.setFlags (f : Flags → Flags) : Within R (setFlags f) :=
  hR.setLib fun _ => rfl

theorem AllowsNegotiation.onLib {x : Lib.Op α}
    (hx : ∀ l a l', x.run l = .ok (a, l') → l'.session = l.session) : Within R (onLib x) := by
  intro w a w' h
  rcases onLib_eq_ok h with ⟨l, hl, rfl⟩
  exact .single (hR.quiet w l w.log (hx _ _ _ hl))

theorem AllowsNegotiation.completeSignaling : Within R (completeSignaling : World.Op δ Unit) :=
  .modify fun w => hR.quiet w _ _ rfl

theorem AllowsNegotiation.signalingMessage (kind : BitVec 32) (options : List Byte) :
    Within R (Library.onLib (signalingMessage env kind options)) :=
  hR.onLib fun l a l' h => by
    cases h
    rfl

theorem AllowsNegotiation.unusedMessage : Within R (Library.onLib (unusedMessage env)) :=
  hR.onLib fun l a l' h => by
    cases h
    rfl

theorem AllowsNegotiation.rand (min max : ℤ) : Within R (Library.onLib (rand env min max)) :=
  hR.onLib fun l a l' h => by
    cases h
    rfl

end Operations

include hR hF

theorem sendMessage_negotiation (msg : SRPPMessage) : Within R (sendMessage env F msg) := by
  have hscratch : Within R (Library.onLib (scratch env)) := hR.onLib fun l a l' h => by
    cases h
    rfl
  refine .ite (.pure _) (.bind hscratch fun r => .bind .get fun w => .bind (.lift _) fun wire => ?_)
  exact .bind (hR.setLib fun _ => rfl) fun _ => .bind (hF.send _) fun _ =>
    .bind (hR.setLib fun _ => rfl) fun _ => .pure _

theorem sendHellos_negotiation (options : List Byte) (n : ℕ) :
    Within R (sendHellos env F options n) := by
  induction n with
  | zero => exact .pure _
  | succ n ih =>
    exact .bind .get fun w => .ite (.pure _) (.bind (hR.setFlags _) fun _ =>
      .bind (hR.signalingMessage env _ _) fun msg =>
        .bind (sendMessage_negotiation env hR hF msg) fun _ => ih)

/-- The key of a HELLO is drawn below 65535. -/
theorem sendHelloMessage_negotiation : Within R (sendHelloMessage env F) := by
  intro w
  rw [sendHelloMessage]
  refine .get_bind ?_
  dsimp only
  split_ifs
  · exact Within.pure _ w
  refine WithinAt.bind (hR.rand env 0 65535 w) fun key v hr => .get_bind ?_
  rcases onLib_eq_ok hr with ⟨l, hl, rfl⟩
  rw [rand_run, srppRand_key] at hl
  cases hl
  refine .modify_bind (.single (hR.drawn _ _ (Nat.mod_lt _ (by decide)))) ?_
  refine Within.bind (hR.signalingMessage env _ _) (fun _ =>
    .bind (sendHellos_negotiation env hR hF _ _) fun sent => .ite ?_ (.pure _)) _
  exact .bind .get fun v => .ite (.pure _) (.bind (hR.unusedMessage env) fun _ =>
    .bind hF.receive fun _ => waitFor_within hF.receive _ _)

theorem signaling_negotiation : Within R (signaling env F) :=
  .bind (hR.rand env _ _) fun _ => sendHelloMessage_negotiation env hR hF

theorem sendHelloAckMessage_negotiation : Within R (sendHelloAckMessage env F) := by
  refine .bind .get fun w => .ite (.pure _) (.bind .get fun w' =>
    .bind (hR.signalingMessage env _ _) fun msg => .ite ?_ (.pure _))
  exact .bind (sendMessage_negotiation env hR hF msg) fun _ => .bind (hR.setFlags _) fun _ =>
    .bind .get fun w'' => .bind (.ite hF.receive (.pure _)) fun _ => .pure _

theorem receivedHelloMessage_negotiation : Within R (receivedHelloMessage env F) :=
  .bind (hR.setFlags _) fun _ => sendHelloAckMessage_negotiation env hR hF

theorem receivedHelloAckMessage_negotiation : Within R (receivedHelloAckMessage env F) := by
  refine .bind (hR.setFlags _) fun _ => .bind .get fun w => .bind hR.completeSignaling fun _ => ?_
  exact .bind (.ite (.pure _) (sendHelloAckMessage_negotiation env hR hF)) fun i =>
    .bind (hR.setFlags _) fun _ => .pure _

theorem sendByeAckMessage_negotiation : Within R (sendByeAckMessage env F) :=
  .bind .get fun _ => .ite (.pure _) (.bind (hR.signalingMessage env _ _) fun msg =>
    .bind (sendMessage_negotiation env hR hF msg) fun _ => .bind (hR.setFlags _) fun _ => .pure _)

theorem receivedByeMessage_negotiation : Within R (receivedByeMessage env F) :=
  .bind (hR.setFlags _) fun _ => sendByeAckMessage_negotiation env hR hF

theorem receivedByeAckMessage_negotiation : Within R (receivedByeAckMessage env F) :=
  .bind (hR.setFlags _) fun _ => .bind .get fun _ => .bind (hR.setFlags _) fun _ =>
    .ite (.pure _) (sendByeAckMessage_negotiation env hR hF)

theorem sendByeMessage_negotiation : Within R (sendByeMessage env F) := by
  refine .bind (hR.signalingMessage env _ _) fun msg =>
    .bind (sendMessage_negotiation env hR hF msg) fun _ => .bind (hR.setFlags _) fun _ => ?_
  exact .bind (hR.unusedMessage env) fun _ => .bind hF.receive fun _ =>
    waitFor_within hF.receive _ _

theorem stopSession_negotiation : Within R (stopSession env F) := by
  refine .bind (hR.setLib fun _ => rfl) fun _ => .bind .get fun w => .ite (.pure _)
    (.bind .get fun w' => ?_)
  exact .bind (.ite (.bind (sendByeMessage_negotiation env hR hF) fun _ => .pure _) (.pure _))
    fun _ => .bind .get fun w'' => .pure _

theorem verifySignalling_negotiation (mem : Mem) : Within R (verifySignalling env F mem) := by
  have hvalue : Within R (Library.onLib (indeterminate env)) := hR.onLib fun l a l' h => by
    cases h
    rfl
  refine .bind .get fun w => .ite (.ite ?_ hvalue) (.pure _)
  exact .bind (hR.setLib fun _ => rfl) fun _ => .bind .get fun w' =>
    .ite (.bind (hR.setLib fun _ => rfl) fun _ => stopSession_negotiation env hR hF) (.pure _)

end Handlers

/-! ## Runs -/

/-- What reaches the library from outside, and the calls it is driven by. -/
inductive Input where
  | signaling
  | stopSession
  /-- `processReceivedData` on a datagram in memory. -/
  | received (mem : Mem) (bytesRead : ℤ)
  /-- `process_sdp_srpp` on an object in any state, then `start_session(sdp)`. -/
  | sdp (object : SdpSrpp) (offerOrAnswer : ℤ) (options : List Byte)

/-- The parameters a message announces are not negative. -/
def announcesValid (msg : SRPPMessage) : Prop :=
  let options := msg.encryptedPart.originalPayload
  (msg.srppHeader.srppSignalling = 12 →
    0 ≤ atoi (firstField options) ∧ 0 ≤ atoi (firstField (afterComma options))) ∧
  (msg.srppHeader.srppSignalling = 13 → 0 ≤ atoi (firstField options))

/-- An input with valid parameters, or with none that are used: a session negotiated
through SIP does not look for signalling messages. -/
def Input.Sound (sip : Bool) : Input → Prop
  | .received mem bytesRead => sip = false → isSignalingBuffer mem = 1 → ∀ f status msg,
    networkToSrpp (createSrppMessage f []) mem bytesRead 0 = .ok (status, msg) → announcesValid msg
  | .sdp object _ options => object.srppActive = 0 ∨
    0 ≤ atoi (firstField options) ∧ 0 ≤ object.maxpacketlength ∧
      0 ≤ atoi (firstField (afterComma options))
  | _ => True

/-- The program around the library: the inputs of its following receives, those that
have been processed, with whether the session was negotiated through SIP then, and the
sessions at the moments it has had control. -/
structure Negotiator where
  script : List (List Input)
  inputs : List (Input × Bool)
  sessions : List Session

def noteInput (input : Input) : World.Op Negotiator Unit :=
  modify fun w => { w with
    ext := { w.ext with inputs := (input, decide (bySip w.lib)) :: w.ext.inputs } }

def noteSession : World.Op Negotiator Unit :=
  modify fun w => { w with ext := { w.ext with sessions := w.lib.session :: w.ext.sessions } }

/-- The inputs of the next entry of the script. -/
def nextInputs : World.Op Negotiator (List Input) := do
  let inputs := (← get).ext.script
  modify fun w => { w with ext := { w.ext with script := inputs.tail } }
  return inputs.headD []

section Runs
variable (env : Env)

def Input.perform (F : Functors Negotiator) : Input → World.Op Negotiator Unit
  | .signaling => do let _ ← Library.signaling env F
  | .stopSession => do let _ ← Library.stopSession env F
  | .received mem bytesRead => do let _ ← processReceivedData env F mem bytesRead
  | .sdp object offerOrAnswer options => do
    let _ ← startSessionSdp env F (object.processSdpSrpp offerOrAnswer options).2

def performInputs (F : Functors Negotiator) : List Input → World.Op Negotiator Unit
  | [] => pure ()
  | input :: inputs => do
    noteInput input
    input.perform env F
    noteSession
    performInputs F inputs

/-- The functors of the program, for handlers nested up to a depth. -/
def negotiatorFunctors (answer : List Byte → ℤ) : ℕ → Functors Negotiator
  | 0 =>
    { send := fun d => do noteSession; return answer d
      receive := noteSession }
  | n + 1 =>
    { send := fun d => do noteSession; return answer d
      receive := do
        noteSession
        performInputs env (negotiatorFunctors answer n) (← nextInputs) }

/-- All inputs so far have been sound. -/
def AllSound (w : World Negotiator) : Prop := ∀ e ∈ w.ext.inputs, e.1.Sound e.2

/-- The session is valid and always has been. -/
structure AlwaysValid (w : World Negotiator) : Prop where
  session : Session.Valid w.lib.session
  sessions : ∀ s ∈ w.ext.sessions, Session.Valid s

/-- Inputs are not forgotten, and sound ones keep the session valid. -/
def KeepsValid (w w' : World Negotiator) : Prop :=
  AllSound w' → AllSound w ∧ (AlwaysValid w → AlwaysValid w')

theorem KeepsValid.of_session {w w' : World Negotiator} (hi : w'.ext.inputs = w.ext.inputs)
    (hs : w'.ext.sessions = w.ext.sessions)
    (hv : AllSound w → Session.Valid w.lib.session → Session.Valid w'.lib.session) :
    KeepsValid w w' := by
  intro ha
  have ha' : AllSound w := by
    rw [AllSound, ← hi]
    exact ha
  exact ⟨ha', fun h => ⟨hv ha' h.session, by rw [hs]; exact h.sessions⟩⟩

theorem keepsValid_allows : AllowsNegotiation KeepsValid where
  quiet w l log h := .of_session rfl rfl fun _ hv => by rwa [h]
  drawn w key h := .of_session rfl rfl fun _ hv => hv.setKey (by omega) (by omega)

theorem noteSession_keepsValid : Within KeepsValid noteSession :=
  .modify fun w ha => ⟨ha, fun h => ⟨h.session, by
    intro s hs
    rcases List.mem_cons.mp hs with rfl | hs
    · exact h.session
    · exact h.sessions s hs⟩⟩

theorem noteInput_keepsValid (input : Input) : Within KeepsValid (noteInput input) :=
  .modify fun _ ha => ⟨fun e he => ha e (List.mem_cons_of_mem _ he), fun h => ⟨h.session, h.sessions⟩⟩

theorem nextInputs_keepsValid : Within KeepsValid nextInputs :=
  .bind .get fun _ => .bind (.modify fun _ => .of_session rfl rfl fun _ h => h) fun _ => .pure _

section Steps
variable {F : Functors Negotiator} (hF : Holds KeepsValid F)
include hF

/-- A message whose parameters are valid if all inputs have been sound. -/
theorem dispatch_keepsValid {w : World Negotiator} {msg : SRPPMessage}
    (h : AllSound w → announcesValid msg) : WithinAt KeepsValid w (dispatch env F msg) := by
  have hR := keepsValid_allows
  unfold dispatch
  dsimp only
  split_ifs with h12 h13 h22 h23
  · refine .modify_bind (.single (.of_session rfl rfl fun ha hv =>
      hv.setKey (atoi_range _) ((h ha).1 h12).1)) ?_
    refine .modify_bind (.single (.of_session rfl rfl fun ha hv => hv.lower ((h ha).1 h12).2)) ?_
    exact .bind_pure (receivedHelloMessage_negotiation env hR hF _)
  · refine .modify_bind (.single (.of_session rfl rfl fun ha hv => hv.lower ((h ha).2 h13))) ?_
    exact .bind_pure (receivedHelloAckMessage_negotiation env hR hF _)
  · exact .bind_pure (receivedByeMessage_negotiation env hR hF w)
  · exact .bind_pure (receivedByeAckMessage_negotiation env hR hF w)
  · exact Within.pure _ w

/-- A datagram that is sound in the state in which it is processed. -/
theorem processReceivedData_keepsValid {w : World Negotiator} {mem : Mem} {bytesRead : ℤ}
    (h : AllSound w → (Input.received mem bytesRead).Sound (decide (bySip w.lib))) :
    WithinAt KeepsValid w (processReceivedData env F mem bytesRead) := by
  have hR := keepsValid_allows
  refine .of_run_eq (processReceivedData_start env F bytesRead)
    (.single (hR.quiet w w.lib.constructed w.log rfl)) (.get_bind ?_)
  dsimp only
  split_ifs with hsip hsig
  · exact Within.bind (.lift _) (fun _ => .pure _) _
  · refine WithinAt.bind (Within.lift _ _) fun r u hr => ?_
    rcases run_lift_eq_ok hr with ⟨hd, rfl⟩
    split_ifs
    · refine .bind_pure (dispatch_keepsValid env hF fun ha => ?_)
      have hb : decide (bySip w.lib) = false :=
        decide_eq_false (mt (bySip_iff w.lib.constructed).mpr hsip)
      exact h ha hb hsig _ _ _ hd
    · exact Within.pure _ _
  · refine WithinAt.bind (verifySignalling_negotiation env hR hF mem _) fun status u hv =>
      .get_bind ?_
    split_ifs
    · refine WithinAt.bind (Within.lift _ _) fun r v hr => ?_
      rcases run_lift_eq_ok hr with ⟨hd, rfl⟩
      rw [if_neg (mt (isSignalingMessage_iff hd).mp hsig)]
      exact Within.pure _ _
    · exact Within.pure _ _

theorem startSessionSdp_keepsValid {w : World Negotiator} {object : SdpSrpp} (o : ℤ)
    {options : List Byte} (h : AllSound w → (Input.sdp object o options).Sound (decide (bySip w.lib))) :
    WithinAt KeepsValid w (startSessionSdp env F (object.processSdpSrpp o options).2) := by
  have hR := keepsValid_allows
  refine .modify_bind (.single (hR.quiet w _ w.log rfl)) ?_
  by_cases ha : (object.processSdpSrpp o options).2.srppActive = 0
  · rw [if_pos ha]
    exact .modify_bind (.single (hR.quiet _ _ _ rfl)) (stopSession_negotiation env hR hF _)
  · rw [if_neg ha]
    refine .modify_bind (.single (.of_session rfl rfl fun hs hv => ?_)) ?_
    · rcases (h hs).resolve_left ha with ⟨hkey, hmax, hsize⟩
      refine ⟨(hv.setKey (atoi_range _) hkey).1, ?_⟩
      change 0 ≤ if _ < object.maxpacketlength then _ else object.maxpacketlength
      split_ifs
      · exact hsize
      · exact hmax
    · exact .modify_bind (.single (hR.quiet _ _ _ rfl))
        (.modify_bind (.single (hR.quiet _ _ _ rfl)) (Within.pure 0 _))

theorem perform_keepsValid {w : World Negotiator} {input : Input}
    (h : AllSound w → input.Sound (decide (bySip w.lib))) :
    WithinAt KeepsValid w (input.perform env F) := by
  cases input with
  | signaling => exact .bind_pure (signaling_negotiation env keepsValid_allows hF w)
  | stopSession => exact .bind_pure (stopSession_negotiation env keepsValid_allows hF w)
  | received mem bytesRead => exact .bind_pure (processReceivedData_keepsValid env hF h)
  | sdp object o options => exact .bind_pure (startSessionSdp_keepsValid env hF o h)

/-- Each input is noted before it is processed. -/
theorem performInputs_keepsValid (inputs : List Input) :
    Within KeepsValid (performInputs env F inputs) := by
  induction inputs with
  | nil => exact .pure _
  | cons input inputs ih =>
    intro w
    refine WithinAt.bind (noteInput_keepsValid input w) fun _ v hr => ?_
    cases hr
    exact WithinAt.bind (perform_keepsValid env hF fun ha => ha _ (List.mem_cons_self ..))
      fun _ u _ => Within.bind noteSession_keepsValid (fun _ => ih) u

end Steps

theorem negotiatorFunctors_keepsValid (answer : List Byte → ℤ) (n : ℕ) :
    Holds KeepsValid (negotiatorFunctors env answer n) := by
  induction n with
  | zero => exact ⟨fun d => noteSession_keepsValid.bind fun _ => .pure _, noteSession_keepsValid⟩
  | succ n ih =>
    exact ⟨fun d => noteSession_keepsValid.bind fun _ => .pure _, noteSession_keepsValid.bind fun _ =>
      nextInputs_keepsValid.bind fun inputs => performInputs_keepsValid env ih inputs⟩

/-- In every run whose inputs are sound where they are processed, every session is valid,
and the codec masks with its key as `encrypt` does. -/
theorem session_valid_of_sound (answer : List Byte → ℤ) (n : ℕ) (inputs : List Input)
    (script : List (List Input)) (l : Lib) (hl : Session.Valid l.session) {w' : World Negotiator}
    (hr : (performInputs env (negotiatorFunctors env answer n) inputs).run ⟨l, ⟨script, [], []⟩, []⟩ =
      .ok ((), w')) (hs : ∀ e ∈ w'.ext.inputs, e.1.Sound e.2) :
    ∀ s ∈ w'.lib.session :: w'.ext.sessions, Session.Valid s ∧
      ∀ count, maskPadCount count s.encryptionKey 0 = count ^^^ s.encryptionKey := by
  have hsteps := performInputs_keepsValid env (negotiatorFunctors_keepsValid env answer n) inputs _
    _ _ hr
  have hvalid : AlwaysValid w' := by
    clear hr
    induction hsteps with
    | refl => exact ⟨hl, by simp⟩
    | tail _ hstep ih => exact (hstep hs).2 (ih (hstep hs).1)
  intro s hmem
  have hv : Session.Valid s := by
    rcases List.mem_cons.mp hmem with rfl | hmem
    · exact hvalid.session
    · exact hvalid.sessions s hmem
  exact ⟨hv, hv.maskPadCount⟩

end Runs

/-- A HELLO with the given text. -/
def helloDatagram (options : List Byte) : Mem := fun a =>
  if 80 ≤ a then options.getD (a - 80).toNat 0 else bareSignal 12 a

/-- The run in which a single input is processed by a library that has just been started. -/
def singleInput (input : Input) : Program (World Negotiator) Fault Unit :=
  performInputs (.constant 0) (negotiatorFunctors (.constant 0) (fun _ => 0) 1) [input]

def startedNegotiator : World Negotiator := ⟨Lib.start (.constant 0), ⟨[], [], []⟩, []⟩

/-- An active SDP offer that is valid. -/
theorem session_valid_offer : ∃ w', (singleInput (.sdp ⟨0, 1, [], 0, 1500⟩ 0 (text "7,100"))).run
      startedNegotiator = .ok ((), w') ∧ ∀ s ∈ w'.lib.session :: w'.ext.sessions, Session.Valid s := by
  refine ⟨_, rfl, fun s hs => ?_⟩
  refine (session_valid_of_sound (.constant 0) (fun _ => 0) 1
    [.sdp ⟨0, 1, [], 0, 1500⟩ 0 (text "7,100")] [] (Lib.start (.constant 0)) (by decide) rfl ?_ s hs).1
  intro e he
  rw [List.mem_singleton.mp he]
  exact Or.inr (by decide)

/-- A HELLO that announces a negative key and a negative size is taken at its word. -/
theorem hello_invalid : ∃ w', (singleInput (.received (helloDatagram (text "-5,-3")) 97)).run
      startedNegotiator = .ok ((), w') ∧ ¬Session.Valid w'.lib.session ∧
    w'.lib.session.encryptionKey.toInt = -5 ∧ w'.lib.session.maxpacketsize = -3 := by
  have hcheck : endsIn (singleInput (.received (helloDatagram (text "-5,-3")) 97)) startedNegotiator
      (fun w => decide (w.lib.session.encryptionKey.toInt = -5 ∧ w.lib.session.maxpacketsize = -3)) =
      true := by
    decide +kernel
  rcases endsIn_run hcheck with ⟨_, w', hr, hs⟩
  have hs' := of_decide_eq_true hs
  exact ⟨w', hr, fun hv => by have := hv.1; omega, hs'⟩

end Sqrkal.Handshake
