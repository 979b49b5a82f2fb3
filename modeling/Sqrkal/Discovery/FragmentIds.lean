import Sqrkal.Discovery.Actions
import Sqrkal.Discovery.FullBandwidth
import Sqrkal.Foundation.Serial

/-! # The identifications of fragments

A packet that is too long leaves in two datagrams, which a receiver puts together by their
identification. It is taken from a counter that moves on with every such packet, so only
packets that lie a whole round of the counter apart have the same one.
-/

namespace Sqrkal.Discovery
open Foundation Mem Message Library Relation

/-- How many packets of a log were sent in fragments. -/
def splits (log : List Event) : ℕ :=
  log.countP fun
    | .fragmented _ => true
    | _ => false

/-- The number of the packet that a next datagram of the raw socket would be a fragment of. -/
def splitOf : List Event → Option ℕ
  | .fragmented _ :: log => some (splits log)
  | .rawMessage _ _ :: log => splitOf log
  | _ => none

/-- The fragments in a log, each with the number of its packet. -/
def fragmentsIn : List Event → List (ℕ × Datagram)
  | [] => []
  | .rawMessage _ d :: log => ((splitOf log).toList.map fun k => (k, d)) ++ fragmentsIn log
  | _ :: log => fragmentsIn log

section Logs
variable {log : List Event} {e : Event}

@[simp] theorem splits_fragmented (packet : ℕ) : splits (.fragmented packet :: log) = splits log + 1 := by
  simp [splits]

@[simp] theorem splits_rawEvents (packet : ℕ) (m : Mem) (a : SockAddr) (n : ℤ) :
    splits (rawEvents packet m a n ++ log) = splits log := by
  unfold rawEvents
  split_ifs <;> simp [splits]

@[simp] theorem fragmentsIn_fragmented (packet : ℕ) :
    fragmentsIn (.fragmented packet :: log) = fragmentsIn log := rfl

@[simp] theorem fragmentsIn_handedOver (packet : ℕ) :
    fragmentsIn (.handedOver packet :: log) = fragmentsIn log := rfl

theorem splits_note (h : IsNote e) : splits (e :: log) = splits log := by
  cases e <;> first | exact h.elim | simp [splits]

theorem fragmentsIn_note (h : IsNote e) : fragmentsIn (e :: log) = fragmentsIn log := by
  cases e <;> first | rfl | exact h.elim

/-- The datagrams of one packet belong to the split they follow. -/
theorem splitOf_rawEvents (packet : ℕ) (m : Mem) (a : SockAddr) (n : ℤ) :
    splitOf (rawEvents packet m a n ++ log) = splitOf log := by
  unfold rawEvents
  split_ifs <;> rfl

theorem mem_fragmentsIn_rawEvents {packet : ℕ} {m : Mem} {a : SockAddr} {n : ℤ} {f : ℕ × Datagram}
    (h : f ∈ fragmentsIn (rawEvents packet m a n ++ log)) :
    f ∈ fragmentsIn log ∨ splitOf log = some f.1 ∧ f.2.bytes = m.read 0 n.toNat := by
  unfold rawEvents at h
  split_ifs at h
  · exact .inl h
  · simp only [List.cons_append, List.nil_append, fragmentsIn, List.mem_append, List.mem_map,
      Option.mem_toList] at h
    rcases h with ⟨k, hk, rfl⟩ | h
    · exact .inr ⟨hk, rfl⟩
    · exact .inl h

end Logs

/-! ## Two fragments -/

/-- The UDP checksum lies behind the identification, whatever the header length says. -/
theorem formChecksums_ident (m : Mem) : AgreesOn (formChecksums m) m 4 6 := by
  refine formChecksums_agreesOn_of (.inl (by decide)) ?_
  have ht : transportAt m = 4 * ihl m := rfl
  omega

theorem firstFragment_load16 (fragId : ℤ) (buff : Mem) :
    (firstFragment fragId buff).load16 4 = htonsInt (15032 + fragId) := by
  have hag : AgreesOn (firstFragment fragId buff) (firstHeader fragId buff) 4 6 := formChecksums_ident _
  rw [hag.load16 le_rfl le_rfl, firstHeader, setTotLen, store16, load16_write_of_disjoint (by simp), store16,
    load16_write_of_disjoint (by simp), load16_store16]

theorem secondFragment_load16 (junk buff : Mem) (bytesLeft : ℕ) :
    (secondFragment junk buff bytesLeft).load16 4 = buff.load16 4 := by
  have hag : AgreesOn (secondFragment junk buff bytesLeft) (secondHeader junk buff bytesLeft) 4 6 :=
    formChecksums_ident _
  have hheader : AgreesOn (secondHeader junk buff bytesLeft) buff 4 6 := by
    apply secondHeader_agreesOn <;> omega
  exact (hag.trans hheader).load16 le_rfl le_rfl

theorem ident_of_load16 {m : Mem} {n : ℕ} {i : ℤ} (hn : 6 ≤ n) (h : m.load16 4 = htonsInt i) :
    ident (m.read 0 n) = BitVec.ofInt 16 i := by
  rw [ident_read m hn, h, htonsInt, htons_htons]

/-- Numbers that are less than a round apart are equal exactly if the counter is. -/
theorem ident_eq_iff {k k' : ℕ} (h : k < k' + 65536) (h' : k' < k + 65536) :
    BitVec.ofInt 16 (15032 + k) = BitVec.ofInt 16 (15032 + k') ↔ k = k' := by
  have hlater : ∀ {a b : ℕ}, a ≤ b → b < a + 65536 →
      BitVec.ofInt 16 (15032 + b) = BitVec.ofInt 16 (15032 + a) → a = b := by
    intro a b hab hb heq
    have hsub := toNat_ofInt_sub (n := 16) (a := 15032 + a) (b := 15032 + b) (by omega) (by omega)
    rw [heq, BitVec.sub_self, BitVec.toNat_zero] at hsub
    omega
  constructor
  · intro heq
    rcases Nat.le_total k k' with hle | hle
    · exact hlater hle h' heq.symm
    · exact (hlater hle h heq).symm
  · intro heq
    rw [heq]

/-! ## Runs -/

/-- The counter tells how many packets were split, and the fragments have its values. -/
structure Identified (w : Process) : Prop where
  counter : w.ext.fragId = splits w.log
  idents : ∀ f ∈ fragmentsIn w.log, ident f.2.bytes = BitVec.ofInt 16 (15032 + f.1)

section Runs
variable {env : Env} {host : Host} {option : ℤ} {w w' : Process}

/-- A split packet gives its fragments the value that the counter had. -/
theorem Identified.split (h : Identified w) (packet : ℕ) (buff junk : Mem) (bytesLeft : ℕ) :
    Identified (sentSplit w packet buff junk bytesLeft) := by
  have hfirst : ∀ n : ℕ, 6 ≤ n →
      ident ((firstFragment w.ext.fragId buff).read 0 n) = BitVec.ofInt 16 (15032 + splits w.log) :=
    fun n hn => ident_of_load16 hn (by rw [firstFragment_load16, h.counter])
  have hsecond : ∀ n : ℕ, 6 ≤ n →
      ident ((secondFragment junk (firstFragment w.ext.fragId buff) bytesLeft).read 0 n) =
        BitVec.ofInt 16 (15032 + splits w.log) :=
    fun n hn => ident_of_load16 hn (by rw [secondFragment_load16, firstFragment_load16, h.counter])
  have hopen : splitOf (.fragmented packet :: .handedOver packet :: w.log) = some (splits w.log) := by
    simp [splitOf, splits]
  constructor
  · change w.ext.fragId + 1 = _
    rw [sentSplit, List.append_assoc, splits_rawEvents, splits_rawEvents, splits_fragmented, h.counter]
    simp [splits]
  · intro f hf
    rw [sentSplit, List.append_assoc] at hf
    rcases mem_fragmentsIn_rawEvents hf with hf | ⟨hk, hbytes⟩
    · rcases mem_fragmentsIn_rawEvents hf with hf | ⟨hk, hbytes⟩
      · exact h.idents f hf
      · rw [hopen, Option.some_inj] at hk
        rw [hbytes, ← hk]
        exact hfirst _ (by decide)
    · rw [splitOf_rawEvents, hopen, Option.some_inj] at hk
      rw [hbytes, ← hk]
      exact hsecond _ (by omega)

theorem Identified.action (hstep : Action w w') (h : Identified w) : Identified w' := by
  cases hstep with
  | hidden g hg =>
    have hcounter : g.fragId = w.ext.fragId := congrArg Face.fragId hg
    exact ⟨hcounter.trans h.counter, h.idents⟩
  | complete =>
    have hsplits : splits (.completed :: w.log) = splits w.log := splits_note trivial
    exact ⟨h.counter.trans (congrArg Nat.cast hsplits.symm), h.idents⟩
  | note e he =>
    refine ⟨?_, fun f hf => h.idents f ?_⟩
    · rw [splits_note he, h.counter]
    · rwa [fragmentsIn_note he] at hf
  | whole packet buff n _ _ =>
    refine ⟨?_, fun f hf => ?_⟩
    · rw [sentWhole, splits_rawEvents, h.counter]
      simp [splits]
    · rcases mem_fragmentsIn_rawEvents hf with hf | ⟨hk, -⟩
      · exact h.idents f hf
      · cases hk
  | split packet buff junk bytesLeft _ => exact h.split packet buff junk bytesLeft
  | message a junk d _ _ =>
    refine ⟨?_, h.idents⟩
    change w.ext.fragId = _
    rw [sentMessage, h.counter]
    simp [splits]
  | _ => exact ⟨h.counter, h.idents⟩

theorem Begins.identified (h : Begins env option w) : Identified w := by
  rcases h.globals with ⟨hlog, ttl, hext⟩
  constructor
  · rw [hlog, hext]
    rfl
  · rw [hlog]
    exact nofun

theorem Reached.identified (h : Reached env host option w) : Identified w := by
  rcases h with ⟨w₀, h₀, hrun⟩
  exact run_keeps (fun _ _ hstep => Identified.action hstep) hrun h₀.identified

/-- In every run, two fragments of packets that were split less than 65536 splits apart have the
same identification exactly if they are of the same packet, so a receiver puts together what
belongs together. -/
theorem fragments_paired_by_ident (h : Reached env host option w) {k k' : ℕ} {d d' : Datagram}
    (hd : (k, d) ∈ fragmentsIn w.log) (hd' : (k', d') ∈ fragmentsIn w.log) (hnear : k < k' + 65536)
    (hnear' : k' < k + 65536) : ident d.bytes = ident d'.bytes ↔ k = k' := by
  rw [h.identified.idents _ hd, h.identified.idents _ hd']
  exact ident_eq_iff hnear hnear'

/-- Two packets of a call that are too long once they are converted. -/
theorem long_packets_told_apart : ∃ w d e, Reached (Env.constant 0) localHost 0 w ∧
    (0, d) ∈ fragmentsIn w.log ∧ (1, e) ∈ fragmentsIn w.log ∧ ident d.bytes ≠ ident e.bytes := by
  let long := some (spokenPacket (List.replicate 1400 7))
  have hcheck : endsIn (session (Env.constant 0) localHost 0 (announcedCall ++ [long, long]) 1 4)
      (atMain (Env.constant 0)) (fun w => decide ((fragmentsIn w.log).map Prod.fst = [1, 1, 0, 0])) =
        true := by decide +kernel
  rcases endsIn_run hcheck with ⟨_, w, hrun, hw⟩
  have hnumbers := of_decide_eq_true hw
  have hold : 0 ∈ (fragmentsIn w.log).map Prod.fst := by simp [hnumbers]
  have hnew : 1 ∈ (fragmentsIn w.log).map Prod.fst := by simp [hnumbers]
  rcases List.mem_map.mp hold with ⟨f, hd, hf⟩
  rcases List.mem_map.mp hnew with ⟨f', he, hf'⟩
  cases f
  cases f'
  cases hf
  cases hf'
  refine ⟨w, _, _, session_run hrun, hd, he, fun heq => ?_⟩
  have hsame := (fragments_paired_by_ident (session_run hrun) hd he (by decide) (by decide)).mp heq
  cases hsame

end Runs

end Sqrkal.Discovery
