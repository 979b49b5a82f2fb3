import Sqrkal.Discovery.Frame

/-! # What the process can change

Every function of the discovery process, down to any depth of nested packets,
moves by the steps listed here. The steps that matter outside carry what the
source has checked before: SRPP is applied only with `signaling_complete` set,
a packet is converted only with `apply_srpp` set.
-/

namespace Sqrkal.Discovery
open Foundation Message Library Relation

inductive Effect (w : Process) : Process → Prop
  | lib (l : Lib) (h : LibStep w.lib l) : Effect w { w with lib := l }
  | complete : Effect w w.complete
  | globals (g : Globals) (h : g.applySrpp = w.ext.applySrpp) : Effect w { w with ext := g }
  | plain (e : Event) (h : IsPlain e) : Effect w { w with log := e :: w.log }
  | started (h : w.lib.flags.signalingComplete = true) :
      Effect w { w with log := .started 0 :: w.log }
  | apply (h : w.lib.flags.signalingComplete = true) :
      Effect w { w with ext := { w.ext with applySrpp := true } }
  | converted (packet : ℕ) (h : w.ext.applySrpp = true) :
      Effect w { w with log := .converted packet :: w.log }
  | bye (applied complete : Bool) (h : applied = false → w.lib.flags.signalingComplete = complete) :
      Effect w { w with log := .byeHandled applied complete :: w.log }

theorem effect_allows : Allows Effect := ⟨fun _ l h => .lib l h, fun _ => .complete⟩

theorem effect_globals : Permits Effect Globals.applySrpp := fun _ g h => .globals g h

theorem effect_filter : Permits Effect Globals.beyondFilter :=
  effect_globals.weaken Globals.applySrpp fun _ => rfl

theorem effect_address : Permits Effect Globals.beyondAddress :=
  effect_globals.weaken Globals.applySrpp fun _ => rfl

theorem effect_flow : Permits Effect Globals.beyondFlow :=
  effect_globals.weaken Globals.applySrpp fun _ => rfl

theorem effect_plain {packet : ℕ} (w : Process) (e : Event) (h : IsOf packet e) :
    Effect w { w with log := e :: w.log } := .plain e h.isPlain

theorem effect_admits : Admits Effect where
  toAllows := effect_allows
  globals := effect_globals.weaken Core.applySrpp fun _ => rfl
  event _ e h := .plain e (by cases e <;> first | exact h | exact trivial)

/-! ## SIP -/

section Sip
variable (env : Env) (host : Host)

/-- The end of the BYE branch leaves the library alone. -/
theorem finishBye_effects {u : Process} {applied complete : Bool}
    (h : applied = false → u.lib.flags.signalingComplete = complete) :
    WithinAt Effect u (finishBye applied complete) := by
  refine WithinAt.bind (addAllRtpRules_within effect_filter.rules _ _ u) fun _ v hv => ?_
  have hlib : v.lib = u.lib :=
    WithinAt.invariant (I := fun t => t.lib = u.lib)
      (@addAllRtpRules_within (fun w w' => w'.lib = w.lib) (fun _ _ _ => rfl) false true u)
      (fun _ _ hstep ht => hstep.trans ht) rfl hv
  refine .modify_bind (.single (.globals _ rfl)) (.modify_bind (.single (.globals _ rfl))
    (.modify_bind (.single (.bye _ _ fun ha => ?_)) (Within.pure _ _)))
  exact (congrArg (fun l => l.flags.signalingComplete) hlib).trans (h ha)

variable {F : Functors Globals} (hF : Holds Effect F)
include hF

/-- The BYE branch. When `apply_srpp` is not set nothing is read in between, so
`signaling_complete` is at the end what it was at the start. -/
theorem parseBye_effects : Within Effect (parseBye env F) := by
  intro w
  refine .get_bind ?_
  split_ifs with hsaw
  · exact Within.pure _ w
  refine .get_bind (.modify_bind (.single (.globals _ rfl)) (.get_bind ?_))
  refine WithinAt.bind (Within.ite (.bind (stopSession_within env effect_allows hF) fun _ => .pure _)
    (.pure _) _) fun _ u hu => finishBye_effects fun happly => ?_
  rw [if_neg (by simp [happly])] at hu
  cases hu
  rfl

theorem parseSip_effects (s : List Byte) (inward : Bool) :
    Within Effect (parseSip env host F s inward) :=
  parseSip_within_of_free env host effect_admits.calls effect_filter
    (effect_admits.setGlobals fun _ => rfl) (setServer_within host effect_address)
    (stopSession_within env effect_allows hF) (parseBye_effects env hF) s inward

end Sip

/-! ## Packets -/

section Packets
variable (env : Env) (host : Host)

/-- A packet is converted only with `apply_srpp` set. -/
theorem applied_effects (packet : ℕ) {x : Op (Mem × ℤ)} (hx : Within Effect x) (r : Mem × ℤ) :
    Within Effect (do
      if (← get).ext.applySrpp then
        observe (.converted packet)
        x
      else return r) := by
  refine .get_bind fun w => ?_
  split_ifs with h
  · exact .modify_bind (.single (.converted packet h)) (hx _)
  · exact Within.pure r w

variable {F : Functors Globals} (hF : Holds Effect F)
include hF

theorem startSrpp_effects : Within Effect (startSrpp env F) := by
  refine .bind (startSession_within env effect_allows hF) fun _ => .get_bind fun u => ?_
  split_ifs with hc
  · have hstop : Within Effect (do
        setLib fun l => { l with srppEnabled := 0 }
        let _ ← stopSession env F
        observe (.started (-1))
        return -1 : Op ℤ) :=
      .bind (effect_allows.setLib fun _ => .quiet rfl rfl) fun _ =>
        .bind (stopSession_within env effect_allows hF) fun _ =>
          .bind (effect_admits.calls.observe (by simp [IsSilent])) fun _ => .pure _
    exact hstop u
  · have hcomplete : u.lib.flags.signalingComplete = true := by simpa using hc
    refine .modify_bind (.single (.lib _ (.quiet rfl rfl))) (.get_bind (.modify_bind
      (.single (.lib _ (.quiet rfl rfl))) (.modify_bind (.single (.started hcomplete)) ?_)))
    exact Within.pure _ _

omit hF in
/-- `start_SRPP` succeeds only with `signaling_complete` set, and takes the counter from the
stored header. -/
theorem startSrpp_succeeds {w w' : Process} {status : ℤ}
    (h : (startSrpp env F).run w = .ok (status, w')) (hs : 0 ≤ status) :
    w'.lib.flags.signalingComplete = true ∧
      w'.lib.lastSequenceNo = (htons (RTPHeader.load w'.ext.rtpHeader 28).seq).toNat := by
  rcases run_bind_eq_ok h with ⟨_, u, -, h⟩
  rw [run_get_bind] at h
  split_ifs at h with hc
  · rcases run_bind_eq_ok h with ⟨_, u₁, -, h⟩
    rcases run_bind_eq_ok h with ⟨_, u₂, -, h⟩
    rcases run_bind_eq_ok h with ⟨_, u₃, -, h⟩
    rcases Prod.mk.inj (Except.ok.inj h) with ⟨rfl, -⟩
    exact absurd hs (by decide)
  · cases h
    exact ⟨by simpa using hc, rfl⟩

theorem tryStart_effects : Within Effect (tryStart env F) := by
  intro w
  refine WithinAt.bind (startSrpp_effects env hF w) fun status u hu => ?_
  split_ifs with hs
  · exact WithinAt.modify (.apply (startSrpp_succeeds env hu hs).1)
  · exact Within.pure _ u

theorem prepareInbound_effects (packet : ℕ) (buff : Mem) (bytesRead : ℤ) (source : BitVec 16) :
    Within Effect (prepareInbound env F packet buff bytesRead source) :=
  prepareInbound_within env effect_admits.media.quiet (tryStart_effects env hF)
    (fun packet _ r hx => applied_effects packet hx r)
    (processReceivedData_within env effect_allows hF) packet buff bytesRead source

theorem prepareOutbound_effects (packet : ℕ) (buff : Mem) (bytesRead : ℤ) :
    Within Effect (prepareOutbound env F packet buff bytesRead) :=
  prepareOutbound_within env (tryStart_effects env hF)
    (fun packet _ r hx => applied_effects packet hx r) effect_admits.media packet buff bytesRead

theorem processPacket_effects (p : Packet) : Within Effect (processPacket env host F p) := fun _ =>
  processPacket_within env host effect_admits.media.quiet effect_plain effect_flow.kind
    (handleRtp_within env effect_plain effect_flow.kind effect_admits.media
      (prepareInbound_effects env hF) (prepareOutbound_effects env hF))
    fun _ u _ => parseSip_effects env host hF _ _ u

theorem receiveRtpMessage_effects : Within Effect (receiveRtpMessage env host F) := fun _ =>
  receiveRtpMessage_within effect_allows effect_flow
    (processReceivedData_within env effect_allows hF)
    fun p u _ _ _ => processPacket_effects env host hF p u

omit hF in
/-- The functors keep to the steps at every depth. -/
theorem functors_hold (n : ℕ) : Holds Effect (functors env host n) := by
  have hsend := sendRtpMessage_within env effect_admits.media.quiet effect_address
  induction n with
  | zero => exact ⟨hsend, effect_allows.onLib (unusedMessage_within env)⟩
  | succ n ih => exact ⟨hsend, receiveRtpMessage_effects env host ih⟩

omit hF in
theorem discoverRound_effects (n : ℕ) : Within Effect (discoverRound env host n) := fun w =>
  roundWith_within (.single (.globals _ rfl)) fun p _ =>
    processPacket_effects env host (functors_hold env host n) p (dequeued (holding w))

end Packets

/-- Events are never taken back. -/
theorem Effect.log_suffix {w w' : Process} (h : Effect w w') : w.log <:+ w'.log := by
  cases h with
  | lib l h => exact List.suffix_rfl
  | complete => exact List.suffix_cons _ _
  | globals g h => exact List.suffix_rfl
  | plain e h => exact List.suffix_cons _ _
  | started h => exact List.suffix_cons _ _
  | apply h => exact List.suffix_rfl
  | converted p h => exact List.suffix_cons _ _
  | bye a c h => exact List.suffix_cons _ _

theorem effects_log_suffix {w w' : Process} (h : ReflTransGen Effect w w') : w.log <:+ w'.log := by
  induction h with
  | refl => exact List.suffix_rfl
  | tail _ hstep ih => exact ih.trans hstep.log_suffix

end Sqrkal.Discovery
