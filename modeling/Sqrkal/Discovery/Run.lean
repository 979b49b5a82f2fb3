import Sqrkal.Discovery.Effects
import Sqrkal.Library.DummyCache

/-! # Runs of the process

The process starts in `main`, which may set one padding option. After that packets
arrive, the main loop takes one at a time, and the timer fires between rounds.
-/

namespace Sqrkal.Discovery
open Foundation Message Library Relation

variable (env : Env) (host : Host)

/-- The process when `main` is entered. -/
def atMain : Process where
  lib := Lib.start env
  ext := { srppMsg := SRPPMessage.new ⟨10200, env.clock 199, env.ssrc, 0⟩ }
  log := []

/-- `main` with an option, and `discover_sessions` up to its loop. -/
def startDiscovering (option : ℤ) : Op Unit := do
  onLib (setOptions option)
  let a ← onLib (rawRand env)
  let b ← onLib (rawRand env)
  setGlobals fun g => { g with srppTtl := 65 + (a % 25 : ℕ) + (b % 5 : ℕ) }
  let _ ← addAllRules true true
  onLib (initSrpp env)
  setGlobals fun g => { g with isDiscovering := true }

/-- The main loop, for a number of rounds. -/
def discoverLoop (n : ℕ) : ℕ → Op Unit
  | 0 => pure ()
  | rounds + 1 => do
    if (← get).ext.isDiscovering then
      discoverRound env host n
      discoverLoop n rounds
    else pure ()

/-- A whole run: the start, some packets in the queue, some rounds of the loop. -/
def session (option : ℤ) (queue : List (Option Packet)) (n rounds : ℕ) : Op Unit := do
  startDiscovering env option
  setGlobals fun g => { g with queue := g.queue ++ queue }
  discoverLoop env host n rounds

/-- The process has been started with an option. -/
def Begins (option : ℤ) (w : Process) : Prop :=
  (startDiscovering env option).run (atMain env) = .ok ((), w)

/-- One step of the process. In the step `again` the read of the main loop has failed, and the
loop goes on with the packet that its buffer still holds. -/
inductive Step (w : Process) : Process → Prop
  | arrive (p : Option Packet) :
      Step w { w with ext := { w.ext with queue := w.ext.queue ++ [p] } }
  | round (n : ℕ) {w' : Process} (hd : w.ext.isDiscovering = true)
      (h : (discoverRound env host n).run w = .ok ((), w')) : Step w w'
  | again (n : ℕ) (q : Packet) {w' : Process} (hd : w.ext.isDiscovering = true) (hq : IsHeld w.ext q)
      (h : (discoverRound env host n).run (refilled w q) = .ok ((), w')) : Step w w'
  | tick (n : ℕ) {w' : Process} (h : (timerFired env (functors env host n)).run w = .ok ((), w')) :
      Step w w'

variable {env host}

theorem Step.effects {w w' : Process} (h : Step env host w w') : ReflTransGen Effect w w' := by
  cases h with
  | arrive p => exact .single (.globals _ rfl)
  | round n _ h => exact discoverRound_effects env host n w () w' h
  | again n q _ _ h =>
    have hrefill : Effect w (refilled w q) := .globals _ rfl
    exact .head hrefill (discoverRound_effects env host n (refilled w q) () w' h)
  | tick n h => exact timerFired_within env effect_allows (functors_hold env host n).send w () w' h

/-- A run moves by effects. -/
theorem run_effects {w w' : Process} (h : ReflTransGen (Step env host) w w') :
    ReflTransGen Effect w w' := by
  induction h with
  | refl => exact .refl
  | tail _ hstep ih => exact ih.trans hstep.effects

/-- An invariant of the effects is one of the runs. -/
theorem run_invariant {I : Process → Prop} (hI : ∀ t t', Effect t t' → I t → I t') {w w' : Process}
    (h : ReflTransGen (Step env host) w w') (hw : I w) : I w' := by
  have he := run_effects h
  clear h
  induction he with
  | refl => exact hw
  | tail _ hstep ih => exact hI _ _ hstep ih

/-- Packets arrive one after the other. -/
theorem arrivals (w : Process) (ps : List (Option Packet)) : ReflTransGen (Step env host) w
    { w with ext := { w.ext with queue := w.ext.queue ++ ps } } := by
  induction ps generalizing w with
  | nil => rw [List.append_nil]
  | cons p ps ih =>
    have hfirst : Step env host w { w with ext := { w.ext with queue := w.ext.queue ++ [p] } } :=
      .arrive p
    refine .head hfirst ?_
    have hrest := ih { w with ext := { w.ext with queue := w.ext.queue ++ [p] } }
    rwa [List.append_assoc] at hrest

theorem discoverLoop_run (n rounds : ℕ) {w w' : Process}
    (h : (discoverLoop env host n rounds).run w = .ok ((), w')) :
    ReflTransGen (Step env host) w w' := by
  induction rounds generalizing w with
  | zero =>
    cases h
    exact .refl
  | succ rounds ih =>
    rw [discoverLoop, run_get_bind] at h
    split_ifs at h with hd
    · rcases run_bind_eq_ok h with ⟨_, u, hround, hrest⟩
      exact .head (.round n hd hround) (ih hrest)
    · cases h
      exact .refl

theorem session_run {option : ℤ} {queue : List (Option Packet)} {n rounds : ℕ} {w : Process}
    (h : (session env host option queue n rounds).run (atMain env) = .ok ((), w)) :
    ∃ w₀, Begins env option w₀ ∧ ReflTransGen (Step env host) w₀ w := by
  rcases run_bind_eq_ok h with ⟨_, w₀, h₀, h⟩
  rw [run_bind_ok (setGlobals_run _ _)] at h
  exact ⟨w₀, h₀, (arrivals w₀ queue).trans (discoverLoop_run n rounds h)⟩

/-- The rules of `add_all_rules`. -/
def sipRules (ttl : ℤ) : List Rule :=
  [⟨.input, true, .destination 5060, ttl⟩, ⟨.output, true, .destination 5060, ttl⟩]

/-- The globals at the start: a time to live has been drawn, and the SIP rules are installed. -/
theorem Begins.globals {option : ℤ} {w : Process} (h : Begins env option w) : w.log = [] ∧
    ∃ ttl, w.ext = { (atMain env).ext with
      srppTtl := ttl, firewall := sipRules ttl, udpAdded := true, isDiscovering := true } := by
  rcases run_bind_eq_ok h with ⟨_, w₁, h₁, h⟩
  rcases onLib_eq_ok h₁ with ⟨l₁, -, rfl⟩
  rcases run_bind_eq_ok h with ⟨a, w₂, h₂, h⟩
  cases h₂
  rcases run_bind_eq_ok h with ⟨b, w₃, h₃, h⟩
  cases h₃
  rw [run_bind_ok (setGlobals_run _ _)] at h
  rcases run_bind_eq_ok h with ⟨_, w₄, h₄, h⟩
  cases h₄
  rcases run_bind_eq_ok h with ⟨_, w₅, h₅, h⟩
  rcases onLib_eq_ok h₅ with ⟨l₅, -, rfl⟩
  cases h
  exact ⟨rfl, _, rfl⟩

/-- Starting the process touches neither the log nor `apply_srpp`. -/
theorem Begins.facts {option : ℤ} {w : Process} (h : Begins env option w) :
    w.log = [] ∧ w.ext.applySrpp = false := by
  rcases h.globals with ⟨hlog, ttl, hext⟩
  exact ⟨hlog, by rw [hext]; rfl⟩

/-! ## The padding state of a run -/

/-- The modes after `set_options`. -/
structure HasMode (option : ℤ) (p : Padding) : Prop where
  full : p.isFullBandwidth = decide (option = 1)
  burst : p.isBurstPadding = decide (option = 2)
  perturbation : p.isSmallPerturbation = decide (option = 5)

theorem HasMode.congr {option : ℤ} {p p' : Padding} (h : HasMode option p) (hs : SameModes p p') :
    HasMode option p' :=
  ⟨hs.full.trans h.full, hs.burst.trans h.burst, hs.perturbation.trans h.perturbation⟩

/-- The state in which `set_options` leaves the library. -/
theorem setOptions_run (env : Env) (option : ℤ) : ∃ l,
    (setOptions option).run (Lib.start env) = .ok ((), l) ∧ HasMode option l.padding ∧
      (option ≠ 3 → l.padding.gradualAscentBandwidth = false) ∧ l.padding.lastmaxbandwidth = 100 ∧
      l.maxpacketsize = 1464 := by
  refine ⟨_, rfl, ?_⟩
  dsimp only
  split_ifs with h1 h2 h3 h4 h5
  · subst h1
    exact ⟨⟨rfl, rfl, rfl⟩, fun _ => rfl, rfl, rfl⟩
  · subst h2
    exact ⟨⟨rfl, rfl, rfl⟩, fun _ => rfl, rfl, rfl⟩
  · subst h3
    exact ⟨⟨rfl, rfl, rfl⟩, fun h => absurd rfl h, rfl, rfl⟩
  · subst h4
    exact ⟨⟨rfl, rfl, rfl⟩, fun _ => rfl, rfl, rfl⟩
  · subst h5
    exact ⟨⟨rfl, rfl, rfl⟩, fun _ => rfl, rfl, rfl⟩
  · exact ⟨⟨by simp [h1, Lib.start], by simp [h2, Lib.start], by simp [h5, Lib.start]⟩, fun _ => rfl,
      rfl, rfl⟩

/-- The packet filter is no part of the library. -/
theorem addAllRules_lib {isAdding isUdp : Bool} {w w' : Process} {r : ℤ}
    (h : (addAllRules isAdding isUdp).run w = .ok (r, w')) : w'.lib = w.lib :=
  WithinAt.invariant (I := fun t => t.lib = w.lib)
    (addAllRules_within (R := fun t t' => t'.lib = t.lib) (fun _ _ _ => rfl) isAdding isUdp w)
    (fun _ _ hstep ht => hstep.trans ht) rfl h

/-- The padding state at the start. -/
theorem Begins.padding {option : ℤ} {w : Process} (h : Begins env option w) :
    HasMode option w.lib.padding ∧ (option ≠ 3 → Drawable w.lib.padding) := by
  rcases setOptions_run env option with ⟨l, hset, hmode, hsteady, hlimit, hmax⟩
  rw [Begins, startDiscovering, run_bind_ok (onLib_run (w := atMain env) hset)] at h
  rcases run_bind_eq_ok h with ⟨a, w₁, h₁, h⟩
  cases h₁
  rcases run_bind_eq_ok h with ⟨b, w₂, h₂, h⟩
  cases h₂
  rw [run_bind_ok (setGlobals_run _ _)] at h
  rcases run_bind_eq_ok h with ⟨_, w₃, h₃, h⟩
  have hlib := addAllRules_lib h₃
  obtain ⟨l', hinit, hsame, hdraw⟩ := initSrpp_run env w₃.lib (by rw [hlib]; exact hmax ▸ by decide)
    (by rw [hlib]; exact hlimit)
  rw [run_bind_ok (onLib_run hinit)] at h
  cases h
  rw [hlib] at hsame hdraw
  exact ⟨hmode.congr hsame, fun ho => hdraw (hsteady ho)⟩

/-- A state of some run of the process with an option. -/
def Reached (env : Env) (host : Host) (option : ℤ) (w : Process) : Prop :=
  ∃ w₀, Begins env option w₀ ∧ ReflTransGen (Step env host) w₀ w

theorem effect_padding {w w' : Process} (h : Effect w w') :
    PaddingStep w.lib.padding w'.lib.padding := by
  cases h with
  | lib l h => exact h.padding
  | _ => exact .same

/-- Without gradual ascent, every entry can be drawn in every state of every run. -/
theorem Reached.padding {option : ℤ} {w : Process} (h : Reached env host option w) :
    HasMode option w.lib.padding ∧ (option ≠ 3 → Drawable w.lib.padding) := by
  rcases h with ⟨w₀, h₀, hrun⟩
  refine run_invariant (I := fun t => HasMode option t.lib.padding ∧
    (option ≠ 3 → Drawable t.lib.padding)) (fun t t' he hi => ?_) hrun h₀.padding
  have hstep := effect_padding he
  exact ⟨hi.1.congr hstep.sameModes, fun ho => (hi.2 ho).step hstep⟩

/-! ## Packets for runs that can be evaluated -/

/-- A signalling message on the wire. -/
def signalBytes (kind : BitVec 32) (options : List Byte) : List Byte :=
  let msg : SRPPMessage := createSrppMessage ⟨1, 0, 19, kind⟩ options
  let msg := { msg with srppHeader := { msg.srppHeader with pt := 124 } }
  match srppToNetwork msg (fun _ => 0) (fun _ => 0) 0 with
  | .ok wire => wire.read 0 (options.length + 92)
  | .error _ => []

/-- A UDP packet between two hosts of 10.0.0.0, on equal ports. -/
def udpPacketBetween (source destination : Byte) (id : ℕ) (port : BitVec 16) (payload : List Byte) :
    Packet where
  id := id
  bytes := [0x45, 0, 0, 28, 0, 0, 0, 0, 64, 17, 0, 0, 10, 0, 0, source, 10, 0, 0, destination] ++
    le16 (htons port) ++ le16 (htons port) ++ [0, 8, 0, 0] ++ payload
  rest _ := 0

/-- A UDP packet from 10.0.0.2 to 10.0.0.1. -/
def udpPacket : ℕ → BitVec 16 → List Byte → Packet := udpPacketBetween 2 1

/-- A SIP packet from 10.0.0.1 to 10.0.0.2. -/
def sentSip (id : ℕ) (message : String) : Packet := udpPacketBetween 1 2 id 5060 (text message)

/-- A SIP packet from 10.0.0.2 to 10.0.0.1. -/
def receivedSip (id : ℕ) (message : String) : Packet := udpPacket id 5060 (text message)

/-- The host 10.0.0.1. -/
def localHost : Host := ⟨[0x0100000a], fun _ => none, 64⟩

end Sqrkal.Discovery
