import Mathlib.Data.List.ReduceOption
import Sqrkal.Discovery.CallIsolation
import Sqrkal.Discovery.Negotiation
import Sqrkal.Discovery.Relay

/-! # Two processes

Two processes run side by side, each with an environment, a host and a padding option of its own.
Packets of any kind reach either of them in any order. What looks like signalling is a message
that the other one has sent, but messages get lost, come twice and overtake each other, and a
process may wait for one in the middle of another packet. So a run is stated against the whole
log of the other process, and the two logs refer to each other.
-/

namespace Sqrkal.Discovery
open Foundation Mem Message Library Handshake Relation

/-- A packet that looks like signalling only if it has the message of a datagram in a log. -/
def IsGenuine (log : List Event) (p : Packet) : Prop :=
  isSignalingBuffer (p.mem.shift 28) = 1 → ∃ d ∈ messagesIn log, p.bytes.drop 28 = d.bytes.drop 28

instance (log : List Event) (p : Packet) : Decidable (IsGenuine log p) :=
  inferInstanceAs (Decidable (_ → _))

/-- The steps of a process whose packets all satisfy a condition. -/
inductive StepOn (env : Env) (host : Host) (good : Packet → Prop) (w : Process) : Process → Prop
  | arrive (p : Option Packet) (h : ∀ q, p = some q → good q) :
      StepOn env host good w { w with ext := { w.ext with queue := w.ext.queue ++ [p] } }
  | round (n : ℕ) {w' : Process} (hd : w.ext.isDiscovering = true)
      (h : (discoverRound env host n).run w = .ok ((), w')) : StepOn env host good w w'
  | again (n : ℕ) (q : Packet) {w' : Process} (hd : w.ext.isDiscovering = true) (hq : IsHeld w.ext q)
      (hg : good q) (h : (discoverRound env host n).run (refilled w q) = .ok ((), w')) :
      StepOn env host good w w'
  | tick (n : ℕ) {w' : Process} (h : (timerFired env (functors env host n)).run w = .ok ((), w')) :
      StepOn env host good w w'

def ReachedOn (env : Env) (host : Host) (option : ℤ) (good : Packet → Prop) (w : Process) : Prop :=
  ∃ w₀, Begins env option w₀ ∧ ReflTransGen (StepOn env host good) w₀ w

section Runs
variable {env : Env} {host : Host} {option : ℤ} {good : Packet → Prop} {w w' : Process}
  {heard : Signal → Prop}

theorem StepOn.step (h : StepOn env host good w w') : Step env host w w' := by
  cases h with
  | arrive p _ => exact .arrive p
  | round n hd h => exact .round n hd h
  | again n q hd hq _ h => exact .again n q hd hq h
  | tick n h => exact .tick n h

theorem ReachedOn.reached (h : ReachedOn env host option good w) : Reached env host option w := by
  rcases h with ⟨w₀, h₀, hrun⟩
  refine ⟨w₀, h₀, ?_⟩
  induction hrun with
  | refl => exact .refl
  | tail _ hstep ih => exact ih.tail hstep.step

theorem Reached.reachedOn (h : Reached env host option w) :
    ReachedOn env host option (fun _ => True) w := by
  rcases h with ⟨w₀, h₀, hrun⟩
  refine ⟨w₀, h₀, ?_⟩
  induction hrun with
  | refl => exact .refl
  | tail _ hstep ih =>
    cases hstep with
    | arrive p => exact ih.tail (.arrive p fun _ _ => trivial)
    | round n hd h => exact ih.tail (.round n hd h)
    | again n q hd hq h => exact ih.tail (.again n q hd hq trivial h)
    | tick n h => exact ih.tail (.tick n h)

/-- The packets of a run that is started with a queue. -/
theorem session_on {queue : List (Option Packet)} {n rounds : ℕ}
    (hgood : ∀ p, some p ∈ queue → good p)
    (h : (session env host option queue n rounds).run (atMain env) = .ok ((), w)) :
    ReachedOn env host option good w := by
  have harrive : ∀ (ps : List (Option Packet)) (u : Process), (∀ p, some p ∈ ps → good p) →
      ReflTransGen (StepOn env host good) u
        { u with ext := { u.ext with queue := u.ext.queue ++ ps } } := by
    intro ps
    induction ps with
    | nil =>
      intro u _
      rw [List.append_nil]
    | cons p ps ih =>
      intro u hps
      have hfirst : StepOn env host good u
          { u with ext := { u.ext with queue := u.ext.queue ++ [p] } } :=
        .arrive p fun q hq => hps q (by simp [hq])
      have hrest := ih { u with ext := { u.ext with queue := u.ext.queue ++ [p] } }
        fun q hq => hps q (List.mem_cons_of_mem _ hq)
      rw [List.append_assoc] at hrest
      exact .head hfirst hrest
  have hloop : ∀ (rounds : ℕ) (u v : Process),
      (discoverLoop env host n rounds).run u = .ok ((), v) →
        ReflTransGen (StepOn env host good) u v := by
    intro rounds
    induction rounds with
    | zero =>
      intro u v hrun
      cases hrun
      exact .refl
    | succ rounds ih =>
      intro u v hrun
      rw [discoverLoop, run_get_bind] at hrun
      split_ifs at hrun with hd
      · rcases run_bind_eq_ok hrun with ⟨_, x, hround, hrest⟩
        exact .head (.round n hd hround) (ih x v hrest)
      · cases hrun
        exact .refl
  rcases run_bind_eq_ok h with ⟨_, w₀, h₀, h⟩
  rw [run_bind_ok (setGlobals_run _ _)] at h
  exact ⟨w₀, h₀, (harrive queue w₀ hgood).trans (hloop rounds _ w h)⟩

/-! ## A call -/

/-- A message of the library on the wire, with the number the process gives it. -/
def messageBytes (kind : BitVec 32) (seq : BitVec 16) (options : List Byte) : List Byte :=
  let msg : SRPPMessage := createSrppMessage ⟨seq, 0, 19, kind⟩ options
  let msg := { msg with srppHeader := { msg.srppHeader with pt := 124, x := 1 } }
  match srppToNetwork msg (fun _ => 0) (fun _ => 0) 0 with
  | .ok wire => wire.read 0 (options.length + 92)
  | .error _ => []

def invited : List (Option Packet) :=
  [some (sentSip 1 "INVITE sip:b Content-Type: application/sdp m=audio 5000 RTP/AVP "),
    some (receivedSip 2 "INVITE sip:a Content-Type: application/sdp m=audio 5000 RTP/AVP ")]

/-- Some media make this end start. While it waits, the HELLOACK of the other end comes in. -/
def startingQueue : List (Option Packet) :=
  invited ++ [some (udpPacket 3 5000 (List.replicate 120 0)),
    some (udpPacket 4 5000 (messageBytes 13 10301 (helloAckOptions 1464)))]

/-- The HELLO of the other end comes in, and its HELLOACK right behind. -/
def answeringQueue : List (Option Packet) :=
  invited ++ [some (udpPacket 3 5000 (messageBytes 12 10301 (helloOptions 7 1464))),
    some (udpPacket 4 5000 (messageBytes 13 10309 (helloAckOptions 1464)))]

/-! ## One process -/

theorem StepOn.turns (h : StepOn env host good w w') (hgood : ∀ p, good p → Hears heard p)
    (hb : w.lib.padding.isBurstPadding = false) : ReflTransGen (TakesTurns heard) w w' := by
  cases h with
  | arrive p hp =>
    refine .single fun hl => ⟨?_, .refl⟩
    intro q hq
    rcases List.mem_append.mp hq with hold | hnew
    · exact hl q hold
    · exact hgood q (hp q (List.mem_singleton.mp hnew).symm)
  | round n _ h => exact discoverRound_turns n w () w' h
  | again n q _ _ hg h =>
    exact .head (refill_turns (hgood q hg) w) (discoverRound_turns n (refilled w q) () w' h)
  | tick n h => exact .single (timerFired_turns hb h)

theorem honest_of_turns (hsteps : ReflTransGen (TakesTurns heard) w w') (hl : Listening heard w)
    (hw : Honest heard (party w)) : Listening heard w' ∧ Honest heard (party w') := by
  induction hsteps with
  | refl => exact ⟨hl, hw⟩
  | tail _ hstep ih =>
    rcases hstep ih.1 with ⟨hlast, hturns⟩
    exact ⟨hlast, honest_run hturns ih.2⟩

/-- What the library of a process may hear is all that the handshake depends on. -/
theorem ReachedOn.honest (h : ReachedOn env host option good w) (ho : option ≠ 2)
    (hgood : ∀ p, good p → Hears heard p) : Honest heard (party w) := by
  rcases h with ⟨w₀, h₀, hrun⟩
  have hall : Listening heard w ∧ Honest heard (party w) := by
    induction hrun with
    | refl =>
      rcases h₀.atStart with ⟨hstart, hl⟩
      exact ⟨hl, hstart.honest⟩
    | tail hbefore hstep ih =>
      have hmode := (ReachedOn.reached ⟨w₀, h₀, hbefore⟩).padding.1
      have hb := hmode.burst.trans (decide_eq_false ho)
      exact honest_of_turns (hstep.turns hgood hb) ih.1 ih.2
  exact hall.2

theorem ReachedOn.modest (h : ReachedOn env host option good w) (ho : option ≠ 2) :
    Modest (party w) :=
  have hany : Honest (fun _ => True) (party w) := h.honest ho fun _ _ _ _ => trivial
  hany.modest

/-- In its whole life a process sends at most six messages of its own, whatever packets it gets in
whatever order: five HELLOs with one key, and one HELLOACK. -/
theorem sends_six_messages (hw : Reached env host option w) (ho : option ≠ 2) :
    (messagesIn w.log).length ≤ 6 ∧ none ∉ saidIn w.log ∧
      (saidIn w.log).countP (fun s => s.any Signal.isHello) ≤ 5 ∧
      (saidIn w.log).count (some .helloAck) ≤ 1 ∧
      ∀ k k', some (.hello k) ∈ saidIn w.log → some (.hello k') ∈ saidIn w.log →
        k = k' ∧ k.toNat < 65535 := by
  have hmodest := hw.reachedOn.modest ho
  have hlength := hmodest.length
  simp only [party, saidIn, List.length_map, List.length_reverse] at hlength
  refine ⟨hlength, hmodest.sense, hmodest.hellos, ?_, ?_⟩
  · apply hmodest.helloAcks.le.trans
    split_ifs <;> simp
  · intro k k' hk hk'
    exact ⟨hmodest.oneKey k k' hk hk', hmodest.range k hk⟩

end Runs

/-- The end that starts the call sends all six. -/
theorem sends_six_messages_start : ∃ w, Reached (Env.constant 7) localHost 1 w ∧
    (messagesIn w.log).length = 6 := by
  have hcheck : endsIn (session (Env.constant 7) localHost 1 startingQueue 1 3)
      (atMain (Env.constant 7)) (fun w => decide (6 ≤ (messagesIn w.log).length)) = true := by
    decide +kernel
  rcases endsIn_run hcheck with ⟨_, w, hw, hsix⟩
  have hreached := session_run hw
  have hmost := (sends_six_messages hreached (by decide)).1
  exact ⟨w, hreached, le_antisymm hmost (of_decide_eq_true hsix)⟩

/-! ## What a genuine packet says -/

theorem readSignal_payload {p q : Packet} (h : p.bytes.drop 28 = q.bytes.drop 28)
    (hlong : 112 ≤ q.bytes.length) : readSignal (p.mem.shift 28) (p.bytes.length - 28) =
      readSignal (q.mem.shift 28) (q.bytes.length - 28) := by
  have hlen : p.bytes.length = q.bytes.length := by
    have hdrop := congrArg List.length h
    rw [List.length_drop, List.length_drop] at hdrop
    omega
  have hread := (mem_shift_read p).trans (h.trans (mem_shift_read q).symm)
  rw [List.length_drop, List.length_drop, hlen, read_eq_read_iff] at hread
  have hag : AgreesOn (p.mem.shift 28) (q.mem.shift 28) 0 (q.bytes.length - 28) := by
    intro a ha hb
    obtain ⟨i, rfl⟩ := Int.eq_ofNat_of_zero_le ha
    simpa using hread i (by omega)
  rw [hlen]
  exact readSignal_congr (hag 1 (by decide) (by omega)) (hag.mono (by decide) (by omega))

theorem genuine_hears {log : List Event} (hsense : none ∉ saidIn log) {p : Packet}
    (hp : IsGenuine log p) : Hears (fun s => some s ∈ saidIn log) p := by
  intro s hs
  have hsignal : isSignalingBuffer (p.mem.shift 28) = 1 := by
    by_contra hn
    rw [readSignal, if_neg hn] at hs
    cases hs
  rcases hp hsignal with ⟨d, hd, hbytes⟩
  have hutters : whatSays d ∈ saidIn log := List.mem_map_of_mem (List.mem_reverse.mpr hd)
  have hlong : 112 ≤ d.bytes.length := by
    by_contra hn
    rw [whatSays, if_neg hn] at hutters
    exact hsense hutters
  have hread := readSignal_payload (q := ⟨0, d.bytes, fun _ => 0⟩) hbytes hlong
  have hsame : whatSays d = some s := by
    rw [whatSays, if_pos hlong, ← hs, hread]
    rfl
  rwa [hsame] at hutters

/-! ## Two processes -/

section Two
variable {env env' : Env} {host host' : Host} {option option' : ℤ} {v w : Process}

/-- Two processes, each of which has heard signalling only from the other one. -/
structure Joined (env env' : Env) (host host' : Host) (option option' : ℤ) (v w : Process) :
    Prop where
  left : ReachedOn env host option (IsGenuine w.log) v
  right : ReachedOn env' host' option' (IsGenuine v.log) w
  leftOption : option ≠ 2
  rightOption : option' ≠ 2

theorem Joined.honest (h : Joined env env' host host' option option' v w) :
    Honest (party w).utters (party v) ∧ Honest (party v).utters (party w) :=
  ⟨h.left.honest h.leftOption fun _ hp => genuine_hears (h.right.modest h.rightOption).sense hp,
    h.right.honest h.rightOption fun _ hp => genuine_hears (h.left.modest h.leftOption).sense hp⟩

/-- A process that applies SRPP has completed the handshake. -/
theorem Joined.complete (h : Joined env env' host host' option option' v w)
    (happlied : v.ext.applySrpp = true) : v.lib.flags.signalingComplete = true := by
  rcases h.left.reached with ⟨v₀, h₀, hrun⟩
  exact (run_invariant (fun _ _ => calls_effect) hrun (calls_begin h₀)).applied happlied

/-- Both ends are in a call, and four bytes of media leave the first one. -/
theorem call_established : ∃ (v w v' : Process) (r : Option ℤ) (d : Datagram),
    Joined (Env.constant 7) (Env.constant 0) localHost localHost 1 0 v w ∧
      saidIn w.log = [some .helloAck] ∧ v.ext.isSrtp = w.ext.isSrtp ∧
      (processPacket (Env.constant 7) localHost (functors (Env.constant 7) localHost 1)
        (spokenPacket [1, 2, 3, 4])).run v = .ok (r, v') ∧
      convertedDatagram 3 v v' = some d ∧ IsEncrypted localHost v (spokenPacket [1, 2, 3, 4]) ∧
      IsPadded v (spokenPacket [1, 2, 3, 4]) d ∧ IsConverted localHost w (carriedPacket d) := by
  have hcheck : endsIn (session (Env.constant 7) localHost 1 startingQueue 1 3)
      (atMain (Env.constant 7)) (fun v =>
        endsIn (session (Env.constant 0) localHost 0 answeringQueue 1 3)
            (atMain (Env.constant 0)) fun w =>
          endsIn (processPacket (Env.constant 7) localHost (functors (Env.constant 7) localHost 1)
            (spokenPacket [1, 2, 3, 4])) v fun v' => (convertedDatagram 3 v v').any fun d =>
              decide ((∀ p ∈ startingQueue.reduceOption, IsGenuine w.log p) ∧
                (∀ p ∈ answeringQueue.reduceOption, IsGenuine v.log p) ∧
                saidIn w.log = [some .helloAck] ∧ v.ext.isSrtp = w.ext.isSrtp ∧
                IsEncrypted localHost v (spokenPacket [1, 2, 3, 4]) ∧
                IsPadded v (spokenPacket [1, 2, 3, 4]) d ∧
                IsConverted localHost w (carriedPacket d))) = true := by decide +kernel
  rcases endsIn_run hcheck with ⟨_, v, hv, hcheck⟩
  rcases endsIn_run hcheck with ⟨_, w, hw, hcheck⟩
  rcases endsIn_run hcheck with ⟨r, v', hrun, hcheck⟩
  rw [Option.any_eq_true] at hcheck
  rcases hcheck with ⟨d, hd, hgood⟩
  rcases of_decide_eq_true hgood with ⟨hstarting, hanswering, hsaid, hmode, hp, hpadded, hq⟩
  refine ⟨v, w, v', r, d, ⟨session_on ?_ hv, session_on ?_ hw, by decide, by decide⟩, hsaid,
    hmode, hrun, hd, hp, hpadded, hq⟩
  · exact fun p hp => hstarting p (List.reduceOption_mem_iff.mpr hp)
  · exact fun p hp => hanswering p (List.reduceOption_mem_iff.mpr hp)

theorem silent_of_said {w : Process} (h : saidIn w.log = [some .helloAck]) :
    ¬(party w).uttersHello := by
  rintro ⟨key, hkey⟩
  change some (Signal.hello key) ∈ saidIn w.log at hkey
  simp [h] at hkey

/-- As soon as one of two processes has completed the handshake, both have the same key, unless
both have started. -/
theorem joined_keys_agree (h : Joined env env' host host' option option' v w)
    (hone : ¬((party v).uttersHello ∧ (party w).uttersHello))
    (hc : v.lib.flags.signalingComplete = true ∨ w.lib.flags.signalingComplete = true) :
    v.lib.session.encryptionKey = w.lib.session.encryptionKey ∧
      v.lib.session.encryptionKey.toNat < 65535 :=
  keys_eq_of_one_start h.honest.1 h.honest.2 hone hc

/-- Both ends of the call have the same key. -/
theorem call_keys_agree : ∃ v w,
    Joined (Env.constant 7) (Env.constant 0) localHost localHost 1 0 v w ∧
    v.lib.session.encryptionKey = w.lib.session.encryptionKey ∧
      v.lib.session.encryptionKey.toNat < 65535 := by
  rcases call_established with ⟨v, w, v', r, d, h, hsaid, -, -, -, hp, -, -⟩
  exact ⟨v, w, h, joined_keys_agree h (fun hboth => silent_of_said hsaid hboth.2)
    (.inl (h.complete hp.applied))⟩

/-- So the media that one of them encrypts, the other one decrypts, whatever packets either has
got before. -/
theorem joined_media_relayed (h : Joined env env' host host' option option' v w)
    (hone : ¬((party v).uttersHello ∧ (party w).uttersHello)) (hmode : w.ext.isSrtp = v.ext.isSrtp)
    {F F' : Functors Globals} {p q : Packet} {r : Option ℤ} {v' : Process} {d : Datagram}
    (hp : IsEncrypted host v p) (hrun : (processPacket env host F p).run v = .ok (r, v'))
    (hd : SendsWhole p.id v v' d) (hpadded : IsPadded v p d) (hq : IsConverted host' w q)
    (harrived : q.bytes.drop 28 = d.bytes.drop 28) : HandsBack env' host' F' w q p := by
  have hcomplete := h.complete hp.applied
  rcases keys_eq_of_one_start h.honest.1 h.honest.2 hone (.inl hcomplete) with ⟨hkey, hrange⟩
  have hrange' : v.lib.session.encryptionKey.toNat < 65535 := hrange
  have hsame : SameSession v w := ⟨hkey.symm, by omega, hmode⟩
  rcases carries_of_sent hp hrun hd hpadded harrived with ⟨data, padding, hcarries⟩
  exact hcarries.handsBack hp.cc hsame hq

/-- Four bytes of media at the other end of the call. -/
theorem call_media_relayed : ∃ v w d,
    Joined (Env.constant 7) (Env.constant 0) localHost localHost 1 0 v w ∧
    HandsBack (Env.constant 0) localHost (functors (Env.constant 0) localHost 1) w (carriedPacket d)
      (spokenPacket [1, 2, 3, 4]) := by
  rcases call_established with ⟨v, w, v', r, d, h, hsaid, hmode, hrun, hd, hp, hpadded, hq⟩
  exact ⟨v, w, d, h, joined_media_relayed h (fun hboth => silent_of_said hsaid hboth.2)
    hmode.symm hp hrun (sendsWhole_of_converted hd) hpadded hq
    (by simp [carriedPacket, udpPacket, udpPacketBetween, le16])⟩

end Two

end Sqrkal.Discovery
