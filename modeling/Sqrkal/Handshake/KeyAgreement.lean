import Sqrkal.Handshake.Network

/-! # Agreement on the key

Every HELLO carries the sender's own key and every receiver takes it over, so
two endpoints that start at the same time swap keys. As long as nobody starts
after the peer's first HELLO, one endpoint leads, all HELLOs carry its key, and
completion on either side means the follower has taken it.
-/

namespace Sqrkal.Handshake
open Foundation Message Library Relation

/-- The endpoint has sent no HELLO. -/
def NoHello (w : Endpoint) : Prop := ∀ d ∈ w.ext, ¬∃ key psize, IsHello key psize d

/-- Nobody starts signalling after the peer's first HELLO. A call of `signaling()` that is refused
is no start. -/
def MayStart (x : Side) (net : Net) : Prop :=
  (localOf (net x)).busy = true ∨ NoHello (net x.peer)

/-- A step in which no endpoint starts after its peer's first HELLO. -/
inductive OrderedStep (env : Side → Env) (net : Net) : Net → Prop
  | initiate (x : Side) {status : ℤ} {w : Endpoint} (ho : MayStart x net)
      (h : (signaling (env x) channel).run (net x) = .ok (status, w)) :
      OrderedStep env net (Function.update net x w)
  | deliver (x : Side) {d : List Byte} (junk : Mem) (hd : d ∈ (net x.peer).ext)
      {r : Option SRPPMessage} {w : Endpoint}
      (h : (processReceivedData (env x) channel (junk.around d) d.length).run (net x) = .ok (r, w)) :
      OrderedStep env net (Function.update net x w)

theorem OrderedStep.step {env : Side → Env} {net net' : Net} (h : OrderedStep env net net') :
    Step env net net' := by
  cases h with
  | initiate x _ h => exact .initiate x h
  | deliver x junk hd h => exact .deliver x junk hd h

theorem OrderedStep.nested {env : Side → Env} {net net' : Net} (h : OrderedStep env net net') :
    NestedStep env MayStart net net' := by
  cases h with
  | initiate x ho h => exact .initiate x .nothing ho h
  | deliver x junk hd h => exact .deliver x .nothing junk hd h

/-- The leader `a` started with `key`, and what the follower `b` knows comes from it. -/
structure Led (a b : Local) (key : ℕ) : Prop where
  keyRange : key < 65536
  leaderInBand : a.inBand = true
  leaderKey : a.key = BitVec.ofInt 32 key
  leaderBusy : a.flags.hellosent = true ∨ a.flags.helloacksent = true
  leaderHello : ∃ d ∈ a.outbox, ∃ psize, IsHello key psize d
  leaderOutbox : ∀ d ∈ a.outbox, (∃ psize, IsHello key psize d) ∨
    (∃ psize, IsHelloAck psize d) ∧ b.flags.hellorecvd = true
  leaderComplete : a.flags.signalingComplete = true → b.flags.hellorecvd = true
  followerInBand : b.inBand = true
  followerQuiet : b.flags.hellosent = false
  followerKey : b.flags.hellorecvd = true → b.key = BitVec.ofInt 32 key
  followerOutbox : ∀ d ∈ b.outbox, (∃ psize, IsHelloAck psize d) ∧ b.flags.hellorecvd = true
  followerComplete : b.flags.signalingComplete = true → b.flags.hellorecvd = true

namespace Led
variable {a b : Local} {key : ℕ} {size : ℤ} {ack : List Byte}

theorem busy (h : Led a b key) : a.busy = true := by
  have := h.leaderBusy
  simp only [Local.busy]
  grind

/-- The leader receives an acknowledgement. -/
theorem leader_helloAck (h : Led a b key) (hr : b.flags.hellorecvd = true)
    (ha : acks (ackFlags a.flags) → ∃ psize, IsHelloAck psize ack) :
    Led (a.helloAck size ack) b key := by
  have hout := Local.helloAck_outbox a size ack
  refine { h with
    leaderInBand := ?_, leaderKey := ?_, leaderBusy := ?_, leaderHello := ?_, leaderOutbox := ?_
    leaderComplete := fun _ => hr }
  · simpa [Local.helloAck, Local.settle] using h.leaderInBand
  · simpa [Local.helloAck, Local.settle] using h.leaderKey
  · right
    have := h.leaderBusy
    simp only [Local.helloAck, Local.settle, Local.acknowledge_flags, Local.lower_flags, ackFlags, acks]
    grind
  · rcases h.leaderHello with ⟨d, hd, hh⟩
    exact ⟨d, by rw [hout]; exact List.mem_append_left _ hd, hh⟩
  · intro d hd
    rw [hout, List.mem_append] at hd
    obtain hd | hd := hd
    · exact h.leaderOutbox d hd
    · split_ifs at hd with hacks
      · obtain rfl := List.mem_singleton.mp hd
        exact Or.inr ⟨ha hacks, hr⟩
      · simp at hd

/-- The follower receives the leader's HELLO. -/
theorem follower_hello (h : Led a b key)
    (ha : acks { b.flags with hellorecvd := true } → ∃ psize, IsHelloAck psize ack) :
    Led a (b.hello key size ack) key := by
  have hr : (b.hello key size ack).flags.hellorecvd = true := by simp [Local.hello]
  refine { h with
    leaderOutbox := ?_, leaderComplete := fun _ => hr, followerInBand := ?_, followerQuiet := ?_
    followerKey := ?_, followerOutbox := ?_, followerComplete := fun _ => hr }
  · intro d hd
    obtain hh | ⟨hh, -⟩ := h.leaderOutbox d hd
    · exact Or.inl hh
    · exact Or.inr ⟨hh, hr⟩
  · simpa [Local.hello] using h.followerInBand
  · simpa [Local.hello] using h.followerQuiet
  · intro _
    simp [Local.hello]
  · intro d hd
    rw [Local.hello_outbox, List.mem_append] at hd
    obtain hd | hd := hd
    · exact ⟨(h.followerOutbox d hd).1, hr⟩
    · split_ifs at hd with hacks
      · obtain rfl := List.mem_singleton.mp hd
        exact ⟨ha hacks, hr⟩
      · simp at hd

/-- The follower receives an acknowledgement of the leader; it sends none in return. -/
theorem follower_helloAck (h : Led a b key) (hr : b.flags.hellorecvd = true) :
    Led a (b.helloAck size ack) key := by
  have hno : acks (ackFlags b.flags) = false := by simp [acks, ackFlags, h.followerQuiet]
  have hr' : (b.helloAck size ack).flags.hellorecvd = true := by
    simpa [Local.helloAck, Local.settle, ackFlags] using hr
  refine { h with
    leaderOutbox := ?_, leaderComplete := fun _ => hr', followerInBand := ?_, followerQuiet := ?_
    followerKey := ?_, followerOutbox := ?_, followerComplete := fun _ => hr' }
  · intro d hd
    obtain hh | ⟨hh, -⟩ := h.leaderOutbox d hd
    · exact Or.inl hh
    · exact Or.inr ⟨hh, hr'⟩
  · simpa [Local.helloAck, Local.settle] using h.followerInBand
  · simp [Local.helloAck, Local.settle]
  · intro _
    simpa [Local.helloAck, Local.settle] using h.followerKey hr
  · intro d hd
    rw [Local.helloAck_outbox, hno] at hd
    exact ⟨(h.followerOutbox d (by simpa using hd)).1, hr'⟩

end Led

/-- An endpoint that has neither sent nor received anything. -/
def Untouched (s : Local) : Prop := s.flags = {} ∧ s.inBand = true ∧ s.outbox = []

/-- The first start makes a leader. -/
theorem led_of_initiate {a b : Local} {key : ℕ} {psize : ℤ} {hellos : List (List Byte)}
    (ha : Untouched a) (hb : Untouched b) (hk : key < 65536) (hne : hellos ≠ [])
    (hh : ∀ d ∈ hellos, IsHello key psize d) : Led (a.initiate key hellos) b key := by
  rcases ha with ⟨haf, hai, hao⟩
  rcases hb with ⟨hbf, hbi, hbo⟩
  have hs : a.initiate key hellos =
      { a with key := BitVec.ofInt 32 key, flags := { a.flags with hellosent := true }
               outbox := hellos } := by
    simp [Local.initiate, Local.busy, haf, hao]
  rcases List.exists_mem_of_ne_nil hellos hne with ⟨d, hd⟩
  rw [hs]
  exact
    { keyRange := hk, leaderInBand := hai, leaderKey := rfl, leaderBusy := Or.inl rfl
      leaderHello := ⟨d, hd, psize, hh d hd⟩, leaderOutbox := fun d hd => Or.inl ⟨psize, hh d hd⟩
      leaderComplete := by simp [haf], followerInBand := hbi, followerQuiet := by simp [hbf]
      followerKey := by simp [hbf], followerOutbox := by simp [hbo]
      followerComplete := by simp [hbf] }

/-- Nothing has happened yet, or somebody leads. -/
def Orderly (s : Side → Local) : Prop :=
  (∀ x, Untouched (s x)) ∨ ∃ x key, Led (s x) (s x.peer) key

section Steps
variable {env : Side → Env} {net : Net} {x : Side} {w : Endpoint}

theorem orderly_initiate {status : ℤ} (hi : Orderly (locals net))
    (ho : (localOf (net x)).busy = true ∨ NoHello (net x.peer))
    (h : (signaling (env x) channel).run (net x) = .ok (status, w)) :
    Orderly (locals (Function.update net x w)) := by
  rcases initiate_effect h with ⟨hellos, hl, hs⟩
  rw [locals_update]
  cases hb : (locals net x).busy with
  | true =>
    have hsame : localOf w = locals net x := by rw [hl, Local.initiate, if_pos hb]
    rwa [hsame, Function.update_eq_self]
  | false =>
    rcases hs hb with ⟨hne, hh⟩
    have hbusy : (localOf (net x)).busy = false := hb
    have hno : NoHello (net x.peer) := ho.resolve_left (by rw [hbusy]; decide)
    obtain hu | ⟨y, key, hled⟩ := hi
    · refine Or.inr ⟨x, drawnKey (env x) (net x), ?_⟩
      rw [Function.update_self, Function.update_of_ne x.peer_ne, hl]
      exact led_of_initiate (hu x) (hu x.peer) (lt_trans (Nat.mod_lt _ (by norm_num)) (by norm_num))
        hne hh
    · obtain rfl | rfl := x.eq_or_eq_peer y
      · rw [hled.busy] at hb
        exact absurd hb (by decide)
      · rcases hled.leaderHello with ⟨d, hd, hello⟩
        exact absurd ⟨key, hello⟩ (hno d hd)

theorem orderly_deliver {d : List Byte} {junk : Mem} {r : Option SRPPMessage}
    (hi : Orderly (locals net)) (hd : d ∈ (net x.peer).ext)
    (h : (processReceivedData (env x) channel (junk.around d) d.length).run (net x) = .ok (r, w)) :
    Orderly (locals (Function.update net x w)) := by
  rw [locals_update]
  obtain hu | ⟨y, key, hled⟩ := hi
  · have hempty : (net x.peer).ext = [] := (hu x.peer).2.2
    rw [hempty] at hd
    exact absurd hd (by simp)
  refine Or.inr ⟨y, key, ?_⟩
  obtain rfl | rfl := x.eq_or_eq_peer y
  · rcases hled.followerOutbox d hd with ⟨⟨psize, hack⟩, hr⟩
    rcases helloAck_effect hack hled.leaderInBand h with ⟨ack, hl, ha⟩
    rw [Function.update_self, Function.update_of_ne y.peer_ne, hl]
    exact hled.leader_helloAck hr fun hacks => ⟨_, ha hacks⟩
  · rw [Side.peer_peer] at hled ⊢
    rw [Function.update_self, Function.update_of_ne x.peer_ne]
    rcases hled.leaderOutbox d hd with ⟨psize, hhello⟩ | ⟨⟨psize, hack⟩, hr⟩
    · obtain ⟨ack, hl, ha⟩ := hello_effect hhello hled.keyRange hled.followerInBand h
      rw [hl]
      exact hled.follower_hello fun hacks => ⟨_, ha hacks⟩
    · rcases helloAck_effect hack hled.followerInBand h with ⟨ack, hl, -⟩
      rw [hl]
      exact hled.follower_helloAck hr

theorem orderly_run {net₀ : Net} (h₀ : Initial net₀)
    (hrun : ReflTransGen (OrderedStep env) net₀ net) : Orderly (locals net) := by
  induction hrun with
  | refl => exact Or.inl fun x => ⟨(h₀ x).1, (h₀ x).2.1, (h₀ x).2.2⟩
  | tail _ hstep ih =>
    cases hstep with
    | initiate x ho h => exact orderly_initiate ih ho h
    | deliver x junk hd h => exact orderly_deliver ih hd h

end Steps

/-- When no endpoint starts after its peer's first HELLO, two endpoints that have
completed signalling hold the same key, however their reads are nested. -/
theorem keys_agree {env : Side → Env} {net₀ net : Net} (h₀ : Initial net₀)
    (hrun : ReflTransGen (NestedStep env MayStart) net₀ net)
    (hc : ∀ x, (net x).lib.flags.signalingComplete = true) :
    (net .left).lib.session.encryptionKey = (net .right).lib.session.encryptionKey := by
  have hsteps : ReflTransGen (OrderedStep env) net₀ net :=
    nested_run (fun hs h => .initiate _ hs h) (fun hd h => .deliver _ _ hd h) hrun
  obtain hu | ⟨x, key, hled⟩ := orderly_run h₀ hsteps
  · have hf := congrArg Flags.signalingComplete (hu .left).1
    rw [show (locals net .left).flags.signalingComplete = true from hc .left] at hf
    exact absurd hf (by decide)
  · have hk : (locals net x).key = (locals net x.peer).key := by
      rw [hled.leaderKey, hled.followerKey (hled.leaderComplete (hc x))]
    cases x with
    | left => exact hk
    | right => exact hk.symm

/-! ## Two runs -/

/-- A network given by its endpoints. -/
def netOf (l r : Endpoint) : Net
  | .left => l
  | .right => r

theorem netOf_update_left (l r w : Endpoint) :
    Function.update (netOf l r) .left w = netOf w r := by
  funext x
  cases x <;> rfl

theorem netOf_update_right (l r w : Endpoint) :
    Function.update (netOf l r) .right w = netOf l w := by
  funext x
  cases x <;> rfl

/-- A fresh endpoint with a given packet size. -/
def freshEndpoint (psize : ℕ) : Endpoint :=
  { lib := { Lib.start (Env.constant 0) with session := { maxpacketsize := psize } }
    ext := [], log := [] }

theorem netOf_fresh_initial (a b : ℕ) : Initial (netOf (freshEndpoint a) (freshEndpoint b)) := by
  intro x
  cases x <;> exact ⟨rfl, rfl, rfl⟩

/-- The left side draws the key 1, the right side the key 2. -/
def twoKeys : Side → Env
  | .left => Env.constant 1
  | .right => Env.constant 2

section Traces
variable {w : Endpoint} {d : List Byte} {s : Local} {own psize : ℕ}

/-- A fresh endpoint starts. -/
theorem fresh_initiate (n own : ℕ) :
    ∃ status w d, (signaling (Env.constant n) channel).run (freshEndpoint own) = .ok (status, w) ∧
      localOf w = { localOf (freshEndpoint own) with
        key := BitVec.ofInt 32 (n % 65535 : ℕ), flags := { hellosent := true }, outbox := w.ext } ∧
      d ∈ w.ext ∧ IsHello (n % 65535) own d := by
  obtain ⟨status, w, hellos, hr, hl, hs⟩ := signaling_local (Env.constant n) (freshEndpoint own)
  rcases hs rfl with ⟨hne, hh⟩
  rcases List.exists_mem_of_ne_nil hellos hne with ⟨d, hd⟩
  have hout : w.ext = hellos := congrArg Local.outbox hl
  refine ⟨status, w, d, hr, ?_, hout ▸ hd, hh d hd⟩
  rw [hl, hout]
  rfl

/-- A HELLO reaches an endpoint that has not answered one. -/
theorem answer_hello (env : Env) {key : ℕ} (h : IsHello key psize d) (hk : key < 65536)
    (hp : psize ≤ 99999) (hw : localOf w = s) (hb : s.inBand = true) (hm : s.max = own)
    (ha : acks { s.flags with hellorecvd := true } = true) :
    ∃ r w' ack, (processReceivedData env channel (Mem.around (fun _ => 0) d) d.length).run w =
        .ok (r, w') ∧ localOf w' = s.hello key psize ack ∧ w'.ext = w.ext ++ [ack] ∧
      IsHelloAck (min own psize : ℕ) ack := by
  subst hw
  obtain ⟨r, w', ack, hr, hl, hack⟩ := deliver_hello env (fun _ => 0) h hk hb
  rw [hello_size hk hp] at hl
  refine ⟨r, w', ack, hr, hl, ?_, ?_⟩
  · rw [show w'.ext = _ from congrArg Local.outbox hl, Local.hello_outbox, if_pos ha]
    rfl
  · have hmax : (localOf w').max = (min own psize : ℕ) := by
      rw [hl]
      simp [Local.hello, hm]
    rw [← hmax]
    exact hack ha

/-- A HELLOACK completes the signalling. -/
theorem complete_helloAck (env : Env) (h : IsHelloAck psize d) (hp : psize ≤ 99999)
    (hw : localOf w = s) (hb : s.inBand = true) (hm : s.max = own) :
    ∃ r w' ack, (processReceivedData env channel (Mem.around (fun _ => 0) d) d.length).run w =
        .ok (r, w') ∧ localOf w' = s.helloAck psize ack ∧ w.ext ⊆ w'.ext ∧
      (acks (ackFlags s.flags) = true → ack ∈ w'.ext ∧ IsHelloAck (min own psize : ℕ) ack) := by
  subst hw
  obtain ⟨r, w', ack, hr, hl, hack⟩ := deliver_helloAck env (fun _ => 0) h hb
  rw [ack_size hp] at hl
  have hout : w'.ext = w.ext ++ if acks (ackFlags (localOf w).flags) then [ack] else [] :=
    (congrArg Local.outbox hl).trans (Local.helloAck_outbox _ _ _)
  refine ⟨r, w', ack, hr, hl, ?_, fun ha => ⟨?_, ?_⟩⟩
  · rw [hout]
    exact List.subset_append_left _ _
  · rw [hout, if_pos ha]
    simp
  · have hmax : (localOf w').max = (min own psize : ℕ) := by
      rw [hl]
      simp [Local.helloAck, Local.settle, hm]
    rw [← hmax]
    exact hack ha

theorem helloAck_complete (ack : List Byte) :
    (s.helloAck psize ack).flags.signalingComplete = true := by
  simp [Local.helloAck, Local.settle, ackFlags]

/-- The left side starts alone, and both sides complete. -/
theorem leader_run {a b : ℕ} (ha : a ≤ 99999) (hb : b ≤ 99999) :
    ∃ net, ReflTransGen (OrderedStep twoKeys) (netOf (freshEndpoint a) (freshEndpoint b)) net ∧
      ∀ x, (net x).lib.flags.signalingComplete = true := by
  rcases fresh_initiate 1 a with ⟨_, l₁, hello, hl₁, sl₁, ml₁, il₁⟩
  obtain ⟨_, r₁, ack₁, hr₁, sr₁, mr₁, ir₁⟩ := @answer_hello (freshEndpoint b) _ _ b _
    (Env.constant 2) _ il₁ (by norm_num) ha rfl rfl rfl rfl
  obtain ⟨_, l₂, ack₂, hl₂, sl₂, -, hsent⟩ := @complete_helloAck l₁ _ _ a _ (Env.constant 1) ir₁
    (by omega) sl₁ rfl rfl
  rcases hsent rfl with ⟨ml₂, il₂⟩
  have hr₁b : ((localOf (freshEndpoint b)).hello (1 % 65535) a ack₁).inBand = true := by
    simp [Local.hello, localOf, freshEndpoint, Lib.start]
  have hr₁m : ((localOf (freshEndpoint b)).hello (1 % 65535) a ack₁).max = (min b a : ℕ) := by
    simp [Local.hello, localOf, freshEndpoint]
  obtain ⟨_, r₂, _, hr₂, sr₂, -, -⟩ := complete_helloAck (Env.constant 2) il₂ (by omega) sr₁ hr₁b hr₁m
  have h₁ := @OrderedStep.initiate twoKeys (netOf (freshEndpoint a) (freshEndpoint b)) .left _ _
    (Or.inr (by simp [NoHello, netOf, freshEndpoint, Side.peer])) hl₁
  have h₂ := @OrderedStep.deliver twoKeys (netOf l₁ (freshEndpoint b)) .right hello _ ml₁ _ _ hr₁
  have h₃ := @OrderedStep.deliver twoKeys (netOf l₁ r₁) .left ack₁ _ (by simp [netOf, Side.peer, mr₁])
    _ _ hl₂
  have h₄ := @OrderedStep.deliver twoKeys (netOf l₂ r₁) .right ack₂ _ ml₂ _ _ hr₂
  simp only [netOf_update_left, netOf_update_right] at h₁ h₂ h₃ h₄
  refine ⟨netOf l₂ r₂, .tail (.tail (.tail (.single h₁) h₂) h₃) h₄, ?_⟩
  intro x
  cases x with
  | left => exact (congrArg (fun s => s.flags.signalingComplete) sl₂).trans (helloAck_complete _)
  | right => exact (congrArg (fun s => s.flags.signalingComplete) sr₂).trans (helloAck_complete _)

end Traces

theorem keys_agree_leader : ∃ net,
    ReflTransGen (OrderedStep twoKeys) (netOf (freshEndpoint 1464) (freshEndpoint 1464)) net ∧
    (∀ x, (net x).lib.flags.signalingComplete = true) ∧
    (net .left).lib.session.encryptionKey = (net .right).lib.session.encryptionKey := by
  obtain ⟨net, hrun, hc⟩ := @leader_run 1464 1464 (by norm_num) (by norm_num)
  have hnested : ReflTransGen (NestedStep twoKeys MayStart)
      (netOf (freshEndpoint 1464) (freshEndpoint 1464)) net :=
    ReflTransGen.mono (fun _ _ h => OrderedStep.nested h) _ _ hrun
  exact ⟨net, hrun, hc, keys_agree (netOf_fresh_initial 1464 1464) hnested hc⟩

/-- Both endpoints start before they hear of each other: each ends with the key of
the other. -/
theorem keys_swapped : ∃ net,
    ReflTransGen (Step twoKeys) (netOf (freshEndpoint 1464) (freshEndpoint 1464)) net ∧
    (∀ x, (net x).lib.flags.signalingComplete = true) ∧
    (net .left).lib.session.encryptionKey ≠ (net .right).lib.session.encryptionKey := by
  rcases fresh_initiate 1 1464 with ⟨_, l₁, hello₁, hl₁, sl₁, ml₁, il₁⟩
  rcases fresh_initiate 2 1464 with ⟨_, r₁, hello₂, hr₁, sr₁, mr₁, ir₁⟩
  obtain ⟨_, l₂, ack₁, hl₂, sl₂, ml₂, il₂⟩ := @answer_hello l₁ _ _ 1464 _ (Env.constant 1) _ ir₁
    (by norm_num) (by norm_num) sl₁ rfl rfl rfl
  obtain ⟨_, r₂, ack₂, hr₂, sr₂, mr₂, ir₂⟩ := @answer_hello r₁ _ _ 1464 _ (Env.constant 2) _ il₁
    (by norm_num) (by norm_num) sr₁ rfl rfl rfl
  obtain ⟨_, l₃, _, hl₃, sl₃, ml₃, -⟩ := @complete_helloAck l₂ _ _ 1464 _ (Env.constant 1) ir₂
    (by norm_num) sl₂ rfl rfl
  obtain ⟨_, r₃, _, hr₃, sr₃, -, -⟩ := @complete_helloAck r₂ _ _ 1464 _ (Env.constant 2) il₂
    (by norm_num) sr₂ rfl rfl
  have h₁ := @Step.initiate twoKeys (netOf (freshEndpoint 1464) (freshEndpoint 1464)) .left _ _ hl₁
  have h₂ := @Step.initiate twoKeys (netOf l₁ (freshEndpoint 1464)) .right _ _ hr₁
  have h₃ := @Step.deliver twoKeys (netOf l₁ r₁) .left hello₂ _ mr₁ _ _ hl₂
  have h₄ := @Step.deliver twoKeys (netOf l₂ r₁) .right hello₁ _
    (by simp [netOf, Side.peer, ml₂, ml₁]) _ _ hr₂
  have h₅ := @Step.deliver twoKeys (netOf l₂ r₂) .left ack₂ _ (by simp [netOf, Side.peer, mr₂]) _ _ hl₃
  have h₆ := @Step.deliver twoKeys (netOf l₃ r₂) .right ack₁ _ (ml₃ (by simp [ml₂])) _ _ hr₃
  simp only [netOf_update_left, netOf_update_right] at h₁ h₂ h₃ h₄ h₅ h₆
  refine ⟨netOf l₃ r₃, .tail (.tail (.tail (.tail (.tail (.single h₁) h₂) h₃) h₄) h₅) h₆, ?_, ?_⟩
  · intro x
    cases x with
    | left => exact (congrArg (fun s => s.flags.signalingComplete) sl₃).trans (helloAck_complete _)
    | right => exact (congrArg (fun s => s.flags.signalingComplete) sr₃).trans (helloAck_complete _)
  · have hl : l₃.lib.session.encryptionKey = 2 := congrArg Local.key sl₃
    have hr : r₃.lib.session.encryptionKey = 1 := congrArg Local.key sr₃
    change l₃.lib.session.encryptionKey ≠ r₃.lib.session.encryptionKey
    rw [hl, hr]
    decide

end Sqrkal.Handshake
