import Sqrkal.Handshake.Moves

/-! # The handshake between two parties

A party has its flags, its key, and what it has said. It moves by turns of its own and by what
it hears, in any order and any number of times. What holds of a party after any turns is stated
for whatever it may hear, so for two parties that hear only what the other one says, at whatever
time, it is enough to put their invariants together.
-/

namespace Sqrkal.Handshake
open Foundation Message Library Relation

/-- What a signalling message says. -/
inductive Signal
  | hello (key : BitVec 32)
  | helloAck
deriving DecidableEq

def Signal.isHello : Signal → Bool
  | .hello _ => true
  | .helloAck => false

/-- The last member holds what each message of the party says, if anything, the latest first. -/
structure Party where
  flags : Flags
  key : BitVec 32
  said : List (Option Signal)

def Party.utters (p : Party) (s : Signal) : Prop := some s ∈ p.said

def Party.uttersHello (p : Party) : Prop := ∃ key, p.utters (.hello key)

/-- The flags without those about the end of a session. -/
def beyondBye (f : Flags) : Flags :=
  { f with
    byesent := false, byerecvd := false, byeacksent := false, byeackrecvd := false
    sessionComplete := false }

inductive Turn (heard : Signal → Prop) (p : Party) : Party → Prop
  | bye (f : Flags) (h : beyondBye f = beyondBye p.flags) : Turn heard p { p with flags := f }
  /-- A key is drawn and said five times. -/
  | start (key : ℕ) (idle : isBusy p.flags = false) (range : key < 65535) : Turn heard p
      { flags := { p.flags with hellosent := true }
        key := BitVec.ofInt 32 key
        said := List.replicate 5 (some (.hello (BitVec.ofInt 32 key))) ++ p.said }
  | hello (key : BitVec 32) (h : heard (.hello key)) : Turn heard p
      { p with flags := { p.flags with hellorecvd := true }, key := key }
  | acknowledge (acking : acks p.flags = true)
      (reason : p.flags.hellorecvd = true ∨ p.flags.helloackrecvd = true) : Turn heard p
      { p with flags := { p.flags with helloacksent := true }, said := some .helloAck :: p.said }
  | helloAck (h : heard .helloAck) : Turn heard p { p with flags := ackFlags p.flags }
  | settle (answered : p.flags.hellosent = true → p.flags.helloacksent = true) : Turn heard p
      { p with flags := { p.flags with hellosent := false, helloackrecvd := false } }

/-- A party that has neither said nor heard anything. -/
structure AtStart (p : Party) : Prop where
  flags : p.flags = {}
  said : p.said = []

section Flags
variable {f g : Flags} (h : beyondBye f = beyondBye g)
include h

theorem beyondBye_hellosent : f.hellosent = g.hellosent := by
  simpa [beyondBye] using congrArg Flags.hellosent h

theorem beyondBye_hellorecvd : f.hellorecvd = g.hellorecvd := by
  simpa [beyondBye] using congrArg Flags.hellorecvd h

theorem beyondBye_helloacksent : f.helloacksent = g.helloacksent := by
  simpa [beyondBye] using congrArg Flags.helloacksent h

theorem beyondBye_helloackrecvd : f.helloackrecvd = g.helloackrecvd := by
  simpa [beyondBye] using congrArg Flags.helloackrecvd h

theorem beyondBye_signalingComplete : f.signalingComplete = g.signalingComplete := by
  simpa [beyondBye] using congrArg Flags.signalingComplete h

end Flags

theorem isBusy_false {f : Flags} (h : isBusy f = false) :
    f.hellosent = false ∧ f.hellorecvd = false ∧ f.helloacksent = false ∧
      f.helloackrecvd = false := by
  simpa [isBusy, and_assoc] using h

theorem acks_true {f : Flags} (h : acks f = true) :
    (f.hellorecvd = true ∨ f.hellosent = true) ∧ f.helloacksent = false ∧
      (f.helloackrecvd = true → f.hellosent = true) := by
  revert h
  simp only [acks]
  grind

/-! ## How much a party says -/

/-- A party says nothing but five HELLOs with one key and one HELLOACK. -/
structure Modest (p : Party) : Prop where
  sense : none ∉ p.said
  hellos : p.said.countP (fun s => s.any Signal.isHello) ≤ 5
  helloAcks : p.said.count (some .helloAck) = if p.flags.helloacksent then 1 else 0
  pending : ¬p.uttersHello ∨ p.flags.hellosent = true ∨ p.flags.helloacksent = true
  oneKey : ∀ k k', p.utters (.hello k) → p.utters (.hello k') → k = k'
  range : ∀ k, p.utters (.hello k) → k.toNat < 65535

theorem AtStart.modest {p : Party} (h : AtStart p) : Modest p := by
  constructor <;> simp [h.flags, h.said, Party.utters, Party.uttersHello]

section Modest
variable {p : Party} (h : Modest p)
include h

/-- A change of the flags alone. -/
theorem Modest.quiet {f : Flags} {key : BitVec 32} (ha : f.helloacksent = p.flags.helloacksent)
    (hs : p.flags.hellosent = true → f.hellosent = true ∨ p.flags.helloacksent = true) :
    Modest ⟨f, key, p.said⟩ where
  sense := h.sense
  hellos := h.hellos
  helloAcks := by
    rw [ha]
    exact h.helloAcks
  pending := by
    rw [ha]
    rcases h.pending with hn | hp | hp
    · exact Or.inl hn
    · exact Or.inr (hs hp)
    · exact Or.inr (Or.inr hp)
  oneKey := h.oneKey
  range := h.range

/-- A party that has said a HELLO never is idle again. -/
theorem Modest.not_uttersHello (idle : isBusy p.flags = false) : ¬p.uttersHello := by
  rcases isBusy_false idle with ⟨hs, -, ha, -⟩
  rcases h.pending with hn | hp | hp
  · exact hn
  · simp [hs] at hp
  · simp [ha] at hp

theorem Modest.start {key : ℕ} (idle : isBusy p.flags = false) (range : key < 65535) :
    Modest ⟨{ p.flags with hellosent := true }, BitVec.ofInt 32 key,
      List.replicate 5 (some (.hello (BitVec.ofInt 32 key))) ++ p.said⟩ := by
  have hnone := h.not_uttersHello idle
  have hkey : (BitVec.ofInt 32 (key : ℤ)).toNat < 65535 := by
    simp
    omega
  have hmem : ∀ k, some (Signal.hello k) ∈
      List.replicate 5 (some (Signal.hello (BitVec.ofInt 32 (key : ℤ)))) ++ p.said →
        k = BitVec.ofInt 32 key := by
    intro k hk
    rcases List.mem_append.mp hk with hnew | hold
    · simpa using List.eq_of_mem_replicate hnew
    · exact absurd ⟨k, hold⟩ hnone
  have hcount : p.said.countP (fun s => s.any Signal.isHello) = 0 := by
    rw [List.countP_eq_zero]
    intro s hs
    cases s with
    | none => simp
    | some s =>
      cases s with
      | hello k => exact absurd ⟨k, hs⟩ hnone
      | helloAck => simp [Signal.isHello]
  constructor
  · simp [h.sense]
  · rw [List.countP_append, hcount, List.countP_replicate]
    simp [Signal.isHello]
  · simp [h.helloAcks]
  · exact Or.inr (Or.inl rfl)
  · intro k k' hk hk'
    rw [hmem k hk, hmem k' hk']
  · intro k hk
    rw [hmem k hk]
    exact hkey

theorem Modest.acknowledge (acking : acks p.flags = true) :
    Modest ⟨{ p.flags with helloacksent := true }, p.key, some .helloAck :: p.said⟩ := by
  have hfirst := (acks_true acking).2.1
  constructor
  · simp [h.sense]
  · simpa [Signal.isHello] using h.hellos
  · simp [h.helloAcks, hfirst]
  · exact Or.inr (Or.inr rfl)
  · intro k k' hk hk'
    apply h.oneKey k k'
    · simpa [Party.utters] using hk
    · simpa [Party.utters] using hk'
  · intro k hk
    apply h.range k
    simpa [Party.utters] using hk

end Modest

theorem Turn.modest {heard : Signal → Prop} {p q : Party} (ht : Turn heard p q) (h : Modest p) :
    Modest q := by
  cases ht with
  | bye f hf =>
    apply h.quiet (beyondBye_helloacksent hf)
    intro hs
    exact Or.inl ((beyondBye_hellosent hf).trans hs)
  | start key idle range => exact h.start idle range
  | hello key _ => exact h.quiet rfl Or.inl
  | acknowledge acking _ => exact h.acknowledge acking
  | helloAck _ => exact h.quiet rfl Or.inl
  | settle answered => exact h.quiet rfl fun hs => Or.inr (answered hs)

/-- All that a modest party says: six messages. -/
theorem Modest.length {p : Party} (h : Modest p) : p.said.length ≤ 6 := by
  have hsplit : ∀ l : List (Option Signal), none ∉ l →
      l.length = l.countP (fun s => s.any Signal.isHello) + l.count (some .helloAck) := by
    intro l hl
    induction l with
    | nil => rfl
    | cons s l ih =>
      rw [List.mem_cons, not_or] at hl
      have hrest := ih hl.2
      rw [List.countP_cons, List.count_cons, List.length_cons, hrest]
      rcases s with - | (key | -)
      · exact absurd rfl hl.1
      · simp [Signal.isHello]
        omega
      · simp [Signal.isHello]
        omega
  have hhellos := h.hellos
  have hacks := h.helloAcks
  rw [hsplit p.said h.sense]
  split_ifs at hacks <;> omega

/-! ## What a party has heard -/

/-- What the flags, the key and the messages of a party tell about what it has heard. -/
structure Earned (heard : Signal → Prop) (p : Party) : Prop where
  started : p.flags.hellosent = true → p.uttersHello
  ownKey : ∀ k, p.utters (.hello k) → p.key = k ∨ p.flags.hellorecvd = true
  hello : p.flags.hellorecvd = true → heard (.hello p.key)
  helloAck : p.flags.helloackrecvd = true → heard .helloAck
  complete : p.flags.signalingComplete = true → heard .helloAck
  answered : p.utters .helloAck → p.flags.hellorecvd = true ∨ (p.uttersHello ∧ heard .helloAck)

theorem AtStart.earned {heard : Signal → Prop} {p : Party} (h : AtStart p) : Earned heard p := by
  constructor <;> simp [h.flags, h.said, Party.utters]

section Earned
variable {heard : Signal → Prop} {p : Party} (h : Earned heard p)
include h

theorem Earned.start {key : ℕ} (idle : isBusy p.flags = false)
    (hnone : ¬p.uttersHello) : Earned heard ⟨{ p.flags with hellosent := true },
      BitVec.ofInt 32 key, List.replicate 5 (some (.hello (BitVec.ofInt 32 key))) ++ p.said⟩ := by
  rcases isBusy_false idle with ⟨-, hr, -, ha⟩
  have hutters : Party.uttersHello ⟨{ p.flags with hellosent := true }, BitVec.ofInt 32 key,
      List.replicate 5 (some (.hello (BitVec.ofInt 32 key))) ++ p.said⟩ := by
    refine ⟨BitVec.ofInt 32 key, ?_⟩
    simp [Party.utters]
  constructor
  · exact fun _ => hutters
  · intro k hk
    rcases List.mem_append.mp hk with hnew | hold
    · left
      simpa using (List.eq_of_mem_replicate hnew).symm
    · exact absurd ⟨k, hold⟩ hnone
  · simp [hr]
  · simp [ha]
  · exact h.complete
  · intro hk
    have hold : p.utters .helloAck := by
      simpa [Party.utters] using hk
    rcases h.answered hold with hrecvd | ⟨-, hheard⟩
    · simp [hr] at hrecvd
    · exact Or.inr ⟨hutters, hheard⟩

theorem Earned.acknowledge (acking : acks p.flags = true)
    (reason : p.flags.hellorecvd = true ∨ p.flags.helloackrecvd = true) :
    Earned heard ⟨{ p.flags with helloacksent := true }, p.key, some .helloAck :: p.said⟩ := by
  have hmore : p.uttersHello → Party.uttersHello
      ⟨{ p.flags with helloacksent := true }, p.key, some .helloAck :: p.said⟩ := by
    rintro ⟨k, hk⟩
    exact ⟨k, List.mem_cons_of_mem _ hk⟩
  constructor
  · exact fun hs => hmore (h.started hs)
  · intro k hk
    apply h.ownKey k
    simpa [Party.utters] using hk
  · exact h.hello
  · exact h.helloAck
  · exact h.complete
  · intro _
    rcases reason with hr | ha
    · exact Or.inl hr
    · have hs := (acks_true acking).2.2 ha
      exact Or.inr ⟨hmore (h.started hs), h.helloAck ha⟩

end Earned

theorem Turn.earned {heard : Signal → Prop} {p q : Party} (ht : Turn heard p q) (hm : Modest p)
    (h : Earned heard p) : Earned heard q := by
  cases ht with
  | bye f hf =>
    have hs := beyondBye_hellosent hf
    have hr := beyondBye_hellorecvd hf
    have ha := beyondBye_helloackrecvd hf
    have hc := beyondBye_signalingComplete hf
    constructor <;> simp only [hs, hr, ha, hc]
    · exact h.started
    · exact h.ownKey
    · exact h.hello
    · exact h.helloAck
    · exact h.complete
    · exact h.answered
  | start key idle range => exact h.start idle (hm.not_uttersHello idle)
  | hello key hk => exact ⟨h.started, fun _ _ => Or.inr rfl, fun _ => hk, h.helloAck, h.complete,
      fun _ => Or.inl rfl⟩
  | acknowledge acking reason => exact h.acknowledge acking reason
  | helloAck ha => exact ⟨h.started, h.ownKey, h.hello, fun _ => ha, fun _ => ha, h.answered⟩
  | settle _ => exact ⟨by simp, h.ownKey, h.hello, by simp, h.complete, h.answered⟩

/-- What holds of a party at any time. -/
structure Honest (heard : Signal → Prop) (p : Party) : Prop where
  modest : Modest p
  earned : Earned heard p

theorem AtStart.honest {heard : Signal → Prop} {p : Party} (h : AtStart p) : Honest heard p :=
  ⟨h.modest, h.earned⟩

theorem Turn.honest {heard : Signal → Prop} {p q : Party} (ht : Turn heard p q)
    (h : Honest heard p) : Honest heard q :=
  ⟨ht.modest h.modest, ht.earned h.modest h.earned⟩

theorem honest_run {heard : Signal → Prop} {p q : Party} (h : ReflTransGen (Turn heard) p q)
    (hp : Honest heard p) : Honest heard q := by
  induction h with
  | refl => exact hp
  | tail _ hturn ih => exact hturn.honest ih

/-! ## Two parties -/

section Two
variable {p q : Party}

/-- One of two parties does not start. As soon as one of them has completed, the other one has
heard of its key and has taken it. -/
theorem key_eq_of_silent (hp : Honest q.utters p) (hq : Honest p.utters q)
    (hsilent : ¬q.uttersHello)
    (hc : p.flags.signalingComplete = true ∨ q.flags.signalingComplete = true) :
    p.key = q.key ∧ p.key.toNat < 65535 := by
  have hdeaf : ¬p.flags.hellorecvd = true := fun hr => hsilent ⟨_, hp.earned.hello hr⟩
  have hack : q.utters .helloAck := by
    rcases hc with hpc | hqc
    · exact hp.earned.complete hpc
    · rcases hp.earned.answered (hq.earned.complete hqc) with hr | ⟨-, hheard⟩
      · exact absurd hr hdeaf
      · exact hheard
  have hrecvd : q.flags.hellorecvd = true := by
    rcases hq.earned.answered hack with hr | ⟨hs, -⟩
    · exact hr
    · exact absurd hs hsilent
  have hsaid := hq.earned.hello hrecvd
  have hown := (hp.earned.ownKey _ hsaid).resolve_right hdeaf
  exact ⟨hown, hown ▸ hp.modest.range _ hsaid⟩

/-- Two parties that hear only each other, and not both of which start. -/
theorem keys_eq_of_one_start (hp : Honest q.utters p) (hq : Honest p.utters q)
    (hone : ¬(p.uttersHello ∧ q.uttersHello))
    (hc : p.flags.signalingComplete = true ∨ q.flags.signalingComplete = true) :
    p.key = q.key ∧ p.key.toNat < 65535 := by
  by_cases hs : q.uttersHello
  · rcases key_eq_of_silent hq hp (fun h => hone ⟨h, hs⟩) hc.symm with ⟨hkey, hrange⟩
    exact ⟨hkey.symm, hkey ▸ hrange⟩
  · exact key_eq_of_silent hp hq hs hc

end Two

end Sqrkal.Handshake
