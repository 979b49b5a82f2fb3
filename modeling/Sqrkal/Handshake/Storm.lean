import Sqrkal.Handshake.Moves

/-! # No signalling storm

Two of the flags that guard the senders are taken back when a HELLOACK comes in.
By then the answer has been sent and noted, so the other guards have taken over:
an endpoint that has sent a HELLO is either waiting for the answer or has
acknowledged.
-/

namespace Sqrkal.Handshake
open Foundation Mem Message Library

/-- The key a HELLO carries: the number before the first comma of its text. -/
def helloKey (d : List Byte) : ℤ := atoi (firstField (d.drop 80))

theorem IsSignal.helloKey {key : ℕ} {psize : ℤ} {d : List Byte}
    (h : IsSignal 12 (helloOptions key psize) d) (hk : key < 65536) : helloKey d = key := by
  rcases h with ⟨msg, mem, wire, hc, hi, rfl⟩
  have hsize : (helloOptions key psize).length + 92 =
      80 + ((helloOptions key psize).length + 8 + 4) := by omega
  rw [Handshake.helloKey, hsize, read_add, List.drop_left' (read_length ..), read_add]
  rw [show (0 : ℤ) + (80 : ℕ) = 80 from rfl, hc.read_payload hi (helloOptions_no_nul hk psize),
    List.append_assoc, hello_key hk]

/-- What the sent messages and the flags have to do with each other. -/
structure Calm (f : Flags) (h : List Exchange) : Prop where
  key : ∀ d ∈ sentOf 12 h, ∀ d' ∈ sentOf 12 h, helloKey d = helloKey d'
  hellos : (sentOf 12 h).length ≤ 5
  pending : sentOf 12 h = [] ∨ f.hellosent = true ∨ f.helloacksent = true
  helloAcks : (sentOf 13 h).length = if f.helloacksent then 1 else 0

/-- A move that sends nothing and keeps the two flags. -/
theorem Calm.congr {f f' : Flags} {h h' : List Exchange} (hc : Calm f h)
    (h12 : sentOf 12 h' = sentOf 12 h) (h13 : sentOf 13 h' = sentOf 13 h)
    (hs : f'.hellosent = f.hellosent) (ha : f'.helloacksent = f.helloacksent) : Calm f' h' where
  key := by
    rw [h12]
    exact hc.key
  hellos := by
    rw [h12]
    exact hc.hellos
  pending := by
    rw [h12, hs, ha]
    exact hc.pending
  helloAcks := by
    rw [h13, ha]
    exact hc.helloAcks

/-- The five HELLOs of an idle endpoint are its first. -/
theorem Calm.hello {f : Flags} {h : List Exchange} (hc : Calm f h) {key : ℕ} {psize : ℤ}
    {ds : List (List Byte)} (idle : isBusy f = false) (range : key < 65536) (count : ds.length = 5)
    (hellos : ∀ d ∈ ds, IsSignal 12 (helloOptions key psize) d) :
    Calm { f with hellosent := true } (ds.map .sent ++ h) := by
  simp only [isBusy, Bool.or_eq_false_iff] at idle
  rcases idle with ⟨⟨⟨hsent, -⟩, hacksent⟩, -⟩
  have hnone : sentOf 12 h = [] := by
    rcases hc.pending with hn | hs | ha
    · exact hn
    · rw [hsent] at hs
      cases hs
    · rw [hacksent] at ha
      cases ha
  have hkind (d : List Byte) (hd : d ∈ ds) : datagramKind d = some 12 :=
    (hellos d hd).datagramKind (by decide)
  have h12 : sentOf 12 (ds.map .sent ++ h) = ds := by
    rw [sentOf_append, sentOf_map_sent hkind, if_pos rfl, hnone, List.append_nil]
  have h13 : sentOf 13 (ds.map .sent ++ h) = sentOf 13 h := by
    rw [sentOf_append, sentOf_map_sent hkind, if_neg (by decide), List.nil_append]
  constructor
  · intro d hd d' hd'
    rw [h12] at hd hd'
    rw [(hellos d hd).helloKey range, (hellos d' hd').helloKey range]
  · rw [h12, count]
  · exact Or.inr (Or.inl rfl)
  · rw [h13]
    exact hc.helloAcks

/-- An acknowledgement is sent only if none has been. -/
theorem Calm.helloAck {f : Flags} {h : List Exchange} (hc : Calm f h) {psize : ℤ} {d : List Byte}
    (acking : acks f = true) (ack : IsSignal 13 (helloAckOptions psize) d) :
    Calm { f with helloacksent := true } (.sent d :: h) := by
  have hfirst : f.helloacksent = false := by
    revert acking
    simp only [acks]
    grind
  have hkind : datagramKind d = some 13 := ack.datagramKind (by decide)
  have h12 : sentOf 12 (.sent d :: h) = sentOf 12 h := by
    rw [sentOf, hkind, if_neg (by decide)]
  have h13 : sentOf 13 (.sent d :: h) = d :: sentOf 13 h := by
    rw [sentOf, hkind, if_pos rfl]
  constructor
  · rw [h12]
    exact hc.key
  · rw [h12]
    exact hc.hellos
  · exact Or.inr (Or.inr rfl)
  · rw [h13, List.length_cons, hc.helloAcks, hfirst]
    rfl

theorem Move.calm {f f' : Flags} {h h' : List Exchange} (hm : Move f h f' h') (hc : Calm f h) :
    Calm f' h' := by
  cases hm with
  | hello key psize ds idle range count hellos => exact hc.hello idle range count hellos
  | helloAck psize d acking ack => exact hc.helloAck acking ack
  | settle answered =>
    refine ⟨hc.key, hc.hellos, ?_, hc.helloAcks⟩
    rcases hc.pending with hn | hs | ha
    · exact Or.inl hn
    · exact Or.inr (Or.inr (answered hs))
    · exact Or.inr (Or.inr ha)
  | _ => exact hc.congr rfl rfl rfl rfl

/-- Whatever is called and received, and however the receives are nested, one process
sends at most five HELLOs, all with the same key, and at most one HELLOACK. -/
theorem no_signalling_storm (env : Env) (answer : List Byte → ℤ) (n : ℕ) (l : Lib)
    (script : List (List Call)) (calls : List Call) (w : World Caller)
    (hrun : (performAll env (callerFunctors env answer n) calls).run (untouched l script) =
      .ok ((), w)) :
    (sentOf 12 w.ext.history).length ≤ 5 ∧
    (∀ d ∈ sentOf 12 w.ext.history, ∀ d' ∈ sentOf 12 w.ext.history, helloKey d = helloKey d') ∧
    (sentOf 13 w.ext.history).length ≤ 1 := by
  have hstart : Calm {} [] := ⟨by simp [sentOf], by simp [sentOf], Or.inl rfl, rfl⟩
  have hcalm := (run_holds env (fun _ _ _ _ => Move.calm) hstart hrun).1
  refine ⟨hcalm.hellos, hcalm.key, ?_⟩
  rw [hcalm.helloAcks]
  split_ifs <;> decide

/-- A call of `signaling` whose first receive brings a HELLOACK. -/
theorem no_signalling_storm_answered : ∃ w,
    (performAll (Env.constant 0) (callerFunctors (Env.constant 0) (fun _ => 0) 1) [.signaling]).run
      (untouched (Lib.start (Env.constant 0)) [[.received (bareSignal 13) 92]]) = .ok ((), w) ∧
    (sentOf 12 w.ext.history).length ≤ 5 ∧
    (∀ d ∈ sentOf 12 w.ext.history, ∀ d' ∈ sentOf 12 w.ext.history, helloKey d = helloKey d') ∧
    (sentOf 13 w.ext.history).length ≤ 1 := by
  have hcheck : endsIn
      (performAll (Env.constant 0) (callerFunctors (Env.constant 0) (fun _ => 0) 1) [.signaling])
      (untouched (Lib.start (Env.constant 0)) [[.received (bareSignal 13) 92]])
      (fun w => w.lib.flags.helloacksent) = true := by decide +kernel
  rcases endsIn_run hcheck with ⟨_, w, hrun, -⟩
  exact ⟨w, hrun, no_signalling_storm _ _ _ _ _ _ w hrun⟩

end Sqrkal.Handshake
