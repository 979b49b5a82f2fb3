import Sqrkal.Handshake.Wire
import Sqrkal.Handshake.Options
import Sqrkal.Library.Effects
import Sqrkal.Library.Recognition

/-! # An endpoint in the hands of an arbitrary caller

The program around the library calls `signaling` and `stop_session` and passes on
whatever it receives, in any order, and it does so again each time the library
calls its receive functor. Its history holds every datagram in both directions and
the flags of the library at each moment it has control.
-/

namespace Sqrkal.Handshake
open Foundation Mem Message Library Relation

inductive Call where
  | signaling
  | stopSession
  /-- `processReceivedData` on a datagram in memory. -/
  | received (mem : Mem) (bytesRead : ℤ)

inductive Exchange where
  /-- `send_message` has given a datagram to the send functor. -/
  | sent (d : List Byte)
  /-- A datagram is about to be processed. -/
  | received (mem : Mem) (bytesRead : ℤ)
  /-- `stop_session` is about to be called with this value of `srpp_enabled`. -/
  | stopping (srppEnabled : ℤ)
  /-- That call has returned. -/
  | stopped (srppEnabled status : ℤ)
  /-- The caller has control, with these flags in the library. -/
  | control (flags : Flags)

/-- What the caller is going to do in the following calls of its receive functor, and
what has happened, the latest first. -/
structure Caller where
  script : List (List Call)
  history : List Exchange

def note (e : Exchange) : World.Op Caller Unit :=
  modify fun w => { w with ext := { w.ext with history := e :: w.ext.history } }

def noteControl : World.Op Caller Unit := do note (.control (← get).lib.flags)

/-- The calls of the next entry of the script. -/
def nextCalls : World.Op Caller (List Call) := do
  let calls := (← get).ext.script
  modify fun w => { w with ext := { w.ext with script := calls.tail } }
  return calls.headD []

variable (env : Env)

def Call.perform (F : Functors Caller) : Call → World.Op Caller Unit
  | .signaling => do let _ ← Library.signaling env F
  | .stopSession => do
    let srppEnabled := (← get).lib.srppEnabled
    note (.stopping srppEnabled)
    note (.stopped srppEnabled (← Library.stopSession env F))
  | .received mem bytesRead => do
    note (.received mem bytesRead)
    let _ ← processReceivedData env F mem bytesRead

def performAll (F : Functors Caller) : List Call → World.Op Caller Unit
  | [] => pure ()
  | c :: cs => do
    c.perform env F
    noteControl
    performAll F cs

/-- The functors of the caller, for handlers nested up to a depth. Sending answers as it
likes and does not receive. -/
def callerFunctors (answer : List Byte → ℤ) : ℕ → Functors Caller
  | 0 =>
    { send := fun d => do note (.sent d); return answer d
      receive := noteControl }
  | n + 1 =>
    { send := fun d => do note (.sent d); return answer d
      receive := do
        noteControl
        performAll env (callerFunctors answer n) (← nextCalls) }

/-- The endpoint before the first call: no flag is set. -/
def untouched (l : Lib) (script : List (List Call)) : World Caller :=
  ⟨{ l with flags := {} }, ⟨script, [.control {}]⟩, []⟩

/-- A signalling datagram with nothing but its type. -/
def bareSignal (kind : Byte) : Mem := fun a => if a = 1 then 124 else if a = 79 then kind else 0

/-- The datagrams that have been received, with the memory they came in. -/
def arrivals : List Exchange → List (Mem × ℤ)
  | [] => []
  | .received mem n :: h => (mem, n) :: arrivals h
  | _ :: h => arrivals h

theorem mem_arrivals {mem : Mem} {n : ℤ} {h : List Exchange} :
    (mem, n) ∈ arrivals h ↔ .received mem n ∈ h := by
  induction h with
  | nil => simp [arrivals]
  | cons e h ih => cases e <;> simp [arrivals, ih]

/-- The datagrams that have been sent. -/
def departures : List Exchange → List (List Byte)
  | [] => []
  | .sent d :: h => d :: departures h
  | _ :: h => departures h

theorem mem_departures {d : List Byte} {h : List Exchange} : d ∈ departures h ↔ .sent d ∈ h := by
  induction h with
  | nil => simp [departures]
  | cons e h ih => cases e <;> simp [departures, ih]

/-! ## Types of signalling message -/

/-- The type under which a datagram in memory is dispatched. -/
def signalKind (mem : Mem) : Option (BitVec 32) :=
  if isSignalingBuffer mem = 1 then some (SRPPHeader.load mem 0).ofWire.srppSignalling else none

/-- The type of a datagram that has been sent. -/
def datagramKind (d : List Byte) : Option (BitVec 32) := signalKind (Mem.around (fun _ => 0) d)

/-- The datagrams of a type among those that have been sent. -/
def sentOf (kind : BitVec 32) : List Exchange → List (List Byte)
  | [] => []
  | .sent d :: h => if datagramKind d = some kind then d :: sentOf kind h else sentOf kind h
  | _ :: h => sentOf kind h

/-- The types of the datagrams that have been received. -/
def receivedKinds : List Exchange → List (Option (BitVec 32))
  | [] => []
  | .received mem _ :: h => signalKind mem :: receivedKinds h
  | _ :: h => receivedKinds h

/-- A datagram of a type has been received. -/
def HasReceived (kind : BitVec 32) (h : List Exchange) : Prop :=
  ∃ mem n, .received mem n ∈ h ∧ signalKind mem = some kind

theorem mem_receivedKinds {kind : BitVec 32} {h : List Exchange} :
    some kind ∈ receivedKinds h ↔ HasReceived kind h := by
  unfold HasReceived
  induction h with
  | nil => simp [receivedKinds]
  | cons e h ih =>
    cases e with
    | received mem n =>
      rw [receivedKinds, List.mem_cons, ih]
      constructor
      · rintro (hk | ⟨mem', n', hm, hk⟩)
        · exact ⟨mem, n, List.mem_cons_self .., hk.symm⟩
        · exact ⟨mem', n', List.mem_cons_of_mem _ hm, hk⟩
      · rintro ⟨mem', n', hm, hk⟩
        rcases List.mem_cons.mp hm with he | hm
        · cases he
          exact Or.inl hk.symm
        · exact Or.inr ⟨mem', n', hm, hk⟩
    | _ => simp [receivedKinds, ih]

instance (kind : BitVec 32) (h : List Exchange) : Decidable (HasReceived kind h) :=
  decidable_of_iff _ mem_receivedKinds

/-- The type of a message does not depend on what is behind it in the buffer. -/
theorem IsSignal.signalKind {kind : BitVec 32} {options d : List Byte}
    (h : IsSignal kind options d) (hk : kind ≠ 0) (junk : Mem) :
    signalKind (junk.around d) = some kind := by
  rcases h.around junk with ⟨-, msg, mem, hc, hi⟩
  rcases hi.header with ⟨csrc, hh⟩
  have hbuf : isSignalingBuffer (junk.around d) = 1 := by
    rw [isSignalingBuffer, hh]
    exact signalingClass_eq_one (mt htonl_eq_zero.mp (by rwa [hc.signalling])) hc.pt
  rw [Handshake.signalKind, if_pos hbuf, hh, ofWire_toWire _ _ hc.cc]
  exact congrArg some hc.signalling

theorem IsSignal.datagramKind {kind : BitVec 32} {options d : List Byte}
    (h : IsSignal kind options d) (hk : kind ≠ 0) : datagramKind d = some kind :=
  h.signalKind hk _

/-- A datagram is dispatched exactly if it has a type. -/
theorem isSignalingMessage_iff {obj msg : SRPPMessage} {mem : Mem} {bytes status : ℤ}
    {key : BitVec 32} (h : networkToSrpp obj mem bytes key = .ok (status, msg)) :
    isSignalingMessage msg = 1 ↔ isSignalingBuffer mem = 1 := by
  rw [isSignalingMessage, isSignalingBuffer, networkToSrpp_srppHeader h, ← not_iff_not]
  change signalingClass _ _ ≠ 1 ↔ signalingClass _ _ ≠ 1
  rw [signalingClass_ne_one, signalingClass_ne_one]
  exact or_congr htonl_eq_zero Iff.rfl

theorem sentOf_append (kind : BitVec 32) (h h' : List Exchange) :
    sentOf kind (h ++ h') = sentOf kind h ++ sentOf kind h' := by
  induction h with
  | nil => rfl
  | cons e h ih =>
    cases e with
    | sent d =>
      rw [List.cons_append, sentOf, sentOf, ih]
      split_ifs <;> rfl
    | received mem n => exact ih
    | stopping k => exact ih
    | stopped k status => exact ih
    | control f => exact ih

/-- Datagrams of one type, all sent. -/
theorem sentOf_map_sent {kind : BitVec 32} {ds : List (List Byte)}
    (h : ∀ d ∈ ds, datagramKind d = some kind) (kind' : BitVec 32) :
    sentOf kind' (ds.map .sent) = if kind' = kind then ds else [] := by
  induction ds with
  | nil => rw [List.map_nil, sentOf, ite_self]
  | cons d ds ih =>
    have hd := h d (List.mem_cons_self ..)
    rw [List.map_cons, sentOf, hd, ih fun d' hd' => h d' (List.mem_cons_of_mem _ hd')]
    by_cases hk : kind' = kind
    · rw [if_pos (congrArg some hk.symm), if_pos hk, if_pos hk]
    · rw [if_neg fun he => hk (Option.some.inj he).symm, if_neg hk, if_neg hk]

theorem HasReceived.append {kind : BitVec 32} {h : List Exchange} (hr : HasReceived kind h)
    (h' : List Exchange) : HasReceived kind (h' ++ h) := by
  rcases hr with ⟨mem, n, hm, hk⟩
  exact ⟨mem, n, List.mem_append_right _ hm, hk⟩

end Sqrkal.Handshake
