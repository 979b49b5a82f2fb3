import Sqrkal.Discovery.SipPort
import Mathlib.Data.List.DropRight

/-! # When a media session may start

`parse_sip` decides about the start of a media session by flags that earlier messages
have set. The law behind them is about the messages: since the last call ended, an
INVITE, a 200 OK the other way and an ACK have been seen. The flags stand for messages
of this call only as long as every message that ends a call finds them clear.
-/

namespace Sqrkal.Discovery
open Foundation Message Library Relation

/-! ## Messages and the law -/

/-- What `parse_sip` takes a message for. -/
inductive SipKind where
  | bye
  | rejection
  | ok
  | ack
  | invite
  | other
deriving DecidableEq

def sipKind (s : List Byte) : SipKind :=
  if contains s (text "BYE ") then .bye
  else if contains s (text "SIP/2.0 4") then .rejection
  else if contains s (text "200 OK") then .ok
  else if contains s (text "ACK ") then .ack
  else if contains s (text "INVITE sip:") && contains s (text "Content-Type: application/sdp") then
    .invite
  else .other

/-- A SIP message and its direction. -/
structure SipMessage where
  content : List Byte
  inward : Bool
deriving DecidableEq

def SipMessage.kind (m : SipMessage) : SipKind := sipKind m.content

/-- A BYE or a response of the class 400. -/
def SipMessage.endsCall (m : SipMessage) : Bool := m.kind = .bye ∨ m.kind = .rejection

/-- The messages since the last call ended. -/
def since (history : List SipMessage) : List SipMessage := history.rtakeWhile fun m => !m.endsCall

/-- A message of a kind has gone in a direction. -/
def Seen (kind : SipKind) (inward : Bool) (messages : List SipMessage) : Prop :=
  ∃ m ∈ messages, m.kind = kind ∧ m.inward = inward

instance (kind : SipKind) (inward : Bool) (messages : List SipMessage) :
    Decidable (Seen kind inward messages) :=
  inferInstanceAs (Decidable (∃ m ∈ messages, _))

/-- After the messages of a history the media session may start with the next one. -/
structure Lawful (history : List SipMessage) (m : SipMessage) : Prop where
  kind : m.kind = .ok ∨ m.kind = .ack
  acknowledged : ∃ a ∈ since (history ++ [m]), a.kind = .ack
  agreed : ∃ inward, Seen .invite inward (since (history ++ [m])) ∧
    Seen .ok (!inward) (since (history ++ [m]))

instance (history : List SipMessage) (m : SipMessage) : Decidable (Lawful history m) :=
  decidable_of_iff ((m.kind = .ok ∨ m.kind = .ack) ∧ (∃ a ∈ since (history ++ [m]), a.kind = .ack) ∧
    ∃ inward, Seen .invite inward (since (history ++ [m])) ∧
      Seen .ok (!inward) (since (history ++ [m])))
    ⟨fun h => ⟨h.1, h.2.1, h.2.2⟩, fun h => ⟨h.kind, h.acknowledged, h.agreed⟩⟩

/-! ## The flags -/

/-- What a message other than a BYE is noted as. -/
def note (m : SipMessage) (f : CallFlags) : CallFlags :=
  match m.kind with
  | .ok => if f.sentInvite && m.inward then { f with saw200ok := true } else f
  | .ack =>
    if f.sawInviteAlready && contains m.content (text "Route:") then { f with sawAck := true } else f
  | .invite => { f with sawInviteAlready := true, sentInvite := f.sentInvite || !m.inward }
  | _ => f

/-- The flags allow the start. -/
def CallFlags.canStart (f : CallFlags) : Bool :=
  !f.isSessionOn && f.sawInviteAlready &&
    (!f.sentInvite && f.sawAck || f.sentInvite && f.saw200ok && f.sawAck)

/-- The flags and the messages they come from. -/
structure CallState where
  flags : CallFlags := {}
  history : List SipMessage := []

/-- How the flags may move: a session starts with a message, by the law. The last two moves
are those of a BYE. -/
inductive CallMove (s : CallState) : CallState → Prop
  | take (m : SipMessage) : CallMove s ⟨note m s.flags, s.history ++ [m]⟩
  | start (m : SipMessage) (h : Lawful s.history m) (hf : (note m s.flags).canStart = true) :
      CallMove s ⟨{ isSessionOn := true }, s.history ++ [m]⟩
  | stop : CallMove s ⟨{ s.flags with isSessionOn := false }, s.history⟩
  | forget : CallMove s ⟨{ s.flags with sawInviteAlready := false }, s.history⟩

@[simp] theorem note_isSessionOn (m : SipMessage) (f : CallFlags) :
    (note m f).isSessionOn = f.isSessionOn := by
  unfold note
  cases m.kind with
  | ok => dsimp only; split_ifs <;> rfl
  | ack => dsimp only; split_ifs <;> rfl
  | bye => rfl
  | rejection => rfl
  | invite => rfl
  | other => rfl

/-- What has happened to the messages and to the session between two states. -/
structure CallPath (s s' : CallState) : Prop where
  history : s.history <+: s'.history
  starts : s.flags.isSessionOn = false → s'.flags.isSessionOn = true →
    ∃ history m, s.history <+: history ∧ history ++ [m] <+: s'.history ∧ Lawful history m

theorem CallPath.refl (s : CallState) : CallPath s s :=
  ⟨List.prefix_rfl, fun hoff hon => absurd (hoff.symm.trans hon) (by decide)⟩

/-- A move that starts no session. -/
theorem CallPath.tail_of_le {s t t' : CallState} (h : CallPath s t)
    (hlonger : t.history <+: t'.history)
    (hon : t'.flags.isSessionOn = true → t.flags.isSessionOn = true) : CallPath s t' := by
  refine ⟨h.history.trans hlonger, fun hs ht' => ?_⟩
  rcases h.starts hs (hon ht') with ⟨history, m, hfrom, hto, hlawful⟩
  exact ⟨history, m, hfrom, hto.trans hlonger, hlawful⟩

/-- A session that starts along some moves starts with a message, by the law. -/
theorem CallMove.path {s s' : CallState} (h : ReflTransGen CallMove s s') : CallPath s s' := by
  induction h with
  | refl => exact .refl s
  | tail _ hmove ih =>
    cases hmove with
    | take m => exact ih.tail_of_le (List.prefix_append _ _) (by simp)
    | start m hlawful hf =>
      exact ⟨ih.history.trans (List.prefix_append _ _), fun _ _ =>
        ⟨_, m, ih.history, List.prefix_rfl, hlawful⟩⟩
    | stop => exact ih.tail_of_le List.prefix_rfl (by simp)
    | forget => exact ih.tail_of_le List.prefix_rfl id

/-! ## What the flags stand for -/

section Since
variable {history : List SipMessage} {m : SipMessage}

theorem since_concat (hm : m.endsCall = false) : since (history ++ [m]) = since history ++ [m] :=
  List.rtakeWhile_concat_pos _ _ m (by simp [hm])

theorem Seen.concat {kind : SipKind} {inward : Bool} (h : Seen kind inward history) :
    Seen kind inward (history ++ [m]) := by
  rcases h with ⟨a, ha, hkind⟩
  exact ⟨a, List.mem_append_left _ ha, hkind⟩

theorem seen_last : Seen m.kind m.inward (history ++ [m]) :=
  ⟨m, List.mem_append_right _ (List.mem_singleton_self m), rfl, rfl⟩

end Since

/-- Every flag comes from a message of the call. -/
structure Justified (history : List SipMessage) (f : CallFlags) : Prop where
  invite : f.sentInvite = true → Seen .invite false (since history)
  ok : f.saw200ok = true → Seen .ok true (since history)
  ack : f.sawAck = true → ∃ a ∈ since history, a.kind = .ack
  answered : f.sawAck = true → f.sentInvite = false → Seen .ok false (since history)
  invited : f.sawInviteAlready = true → f.sentInvite = false → Seen .invite true (since history)

/-- The state in which a message may be handled. At a BYE and at a rejection the flags are
clear, but for those that the BYE branch clears before anything else is handled. An ACK
that is noted in a call that came in follows a 200 OK that went out. An INVITE that goes out
does not end the discovery. -/
def mayTake (host : Host) (history : List SipMessage) (g : Globals) (m : SipMessage) : Bool :=
  match m.kind with
  | .bye => !g.sentInvite && !g.saw200ok && !g.sawAck &&
      (!g.sawInviteAlready || !g.applySrpp && !g.sawByeAlready)
  | .rejection => !g.sentInvite && !g.saw200ok && !g.sawAck && !g.sawInviteAlready
  | .ack => !(g.sawInviteAlready && contains m.content (text "Route:") && !g.sentInvite) ||
      Seen .ok false (since history)
  | .invite => m.inward || !endsDiscovery host m.content
  | _ => true

section Justification
variable {host : Host} {history : List SipMessage} {g : Globals} {f : CallFlags} {m : SipMessage}

theorem justified_of_clear (hi : f.sentInvite = false) (ho : f.saw200ok = false)
    (ha : f.sawAck = false) (hs : f.sawInviteAlready = false) : Justified history f where
  invite h := absurd (hi.symm.trans h) (by decide)
  ok h := absurd (ho.symm.trans h) (by decide)
  ack h := absurd (ha.symm.trans h) (by decide)
  answered h := absurd (ha.symm.trans h) (by decide)
  invited h := absurd (hs.symm.trans h) (by decide)

/-- A flag less needs no justification, as long as it is not that of an INVITE that was sent. -/
theorem Justified.forget (h : Justified history f) :
    Justified history { f with sawInviteAlready := false } :=
  ⟨h.invite, h.ok, h.ack, h.answered, nofun⟩

/-- What stood for messages of the call does so after another one. -/
theorem Justified.concat (h : Justified history f) (hm : m.endsCall = false) :
    Justified (history ++ [m]) f := by
  have hsince := @since_concat history m hm
  refine ⟨fun hf => ?_, fun hf => ?_, fun hf => ?_, fun hf hi => ?_, fun hf hi => ?_⟩
  · rw [hsince]
    exact (h.invite hf).concat
  · rw [hsince]
    exact (h.ok hf).concat
  · rw [hsince]
    rcases h.ack hf with ⟨a, ha, hkind⟩
    exact ⟨a, List.mem_append_left _ ha, hkind⟩
  · rw [hsince]
    exact (h.answered hf hi).concat
  · rw [hsince]
    exact (h.invited hf hi).concat

theorem seen_since (hm : m.endsCall = false) :
    Seen m.kind m.inward (since (history ++ [m])) := by
  rw [since_concat hm]
  exact seen_last

theorem take_ok (h : Justified history f) (hk : m.kind = .ok) :
    Justified (history ++ [m]) (note m f) := by
  have hm : m.endsCall = false := by simp [SipMessage.endsCall, hk]
  have hj := h.concat hm
  have hseen := @seen_since history m hm
  unfold note
  rw [hk] at hseen ⊢
  dsimp only
  split_ifs with hnote
  · rw [Bool.and_eq_true] at hnote
    exact ⟨hj.invite, fun _ => hnote.2 ▸ hseen, hj.ack, hj.answered, hj.invited⟩
  · exact hj

theorem take_ack (h : Justified history g.call) (hk : m.kind = .ack)
    (hm : mayTake host history g m = true) : Justified (history ++ [m]) (note m g.call) := by
  have hends : m.endsCall = false := by simp [SipMessage.endsCall, hk]
  have hj := h.concat hends
  unfold note
  unfold mayTake at hm
  rw [hk] at hm ⊢
  dsimp only at hm ⊢
  split_ifs with hnote
  · refine ⟨hj.invite, hj.ok, fun _ => ?_, fun _ hi => ?_, hj.invited⟩
    · rcases @seen_since history m hends with ⟨a, ha, hkind, -⟩
      exact ⟨a, ha, hkind.trans hk⟩
    · have hroute : (g.sawInviteAlready && contains m.content (text "Route:") &&
          !g.sentInvite) = true := by
        rw [show g.sentInvite = false from hi]
        exact Bool.and_eq_true_iff.mpr ⟨hnote, rfl⟩
      rw [hroute] at hm
      rw [since_concat hends]
      exact (of_decide_eq_true hm).concat
  · exact hj

theorem take_invite (h : Justified history f) (hk : m.kind = .invite) :
    Justified (history ++ [m]) (note m f) := by
  have hm : m.endsCall = false := by simp [SipMessage.endsCall, hk]
  have hj := h.concat hm
  have hseen := @seen_since history m hm
  unfold note
  rw [hk] at hseen ⊢
  dsimp only
  cases hin : m.inward with
  | true =>
    rw [hin] at hseen
    refine ⟨fun hi => hj.invite (by simpa using hi), hj.ok, hj.ack, fun ha hi => hj.answered ha ?_,
      fun _ _ => hseen⟩
    simpa using hi
  | false =>
    rw [hin] at hseen
    exact ⟨fun _ => hseen, hj.ok, hj.ack, fun _ hi => absurd hi (by simp),
      fun _ hi => absurd hi (by simp)⟩

/-- A message that may be handled leaves every flag with a message of the call. -/
theorem Justified.take (h : Justified history g.call) (hb : m.kind ≠ .bye)
    (hm : mayTake host history g m = true) : Justified (history ++ [m]) (note m g.call) := by
  cases hk : m.kind with
  | bye => exact absurd hk hb
  | rejection =>
    unfold mayTake at hm
    unfold note
    rw [hk] at hm ⊢
    simp only [Bool.and_eq_true, Bool.not_eq_true'] at hm
    exact justified_of_clear hm.1.1.1 hm.1.1.2 hm.1.2 hm.2
  | ok => exact take_ok h hk
  | ack => exact take_ack h hk hm
  | invite => exact take_invite h hk
  | other =>
    unfold note
    rw [hk]
    exact h.concat (by simp [SipMessage.endsCall, hk])

/-- Flags that stand for messages of the call allow no other start than a lawful one. -/
theorem Justified.lawful (h : Justified (history ++ [m]) f) (hk : m.kind = .ok ∨ m.kind = .ack)
    (hf : f.canStart = true) : Lawful history m := by
  simp only [CallFlags.canStart, Bool.and_eq_true, Bool.or_eq_true, Bool.not_eq_true'] at hf
  rcases hf with ⟨⟨-, hseen⟩, ⟨hi, ha⟩ | ⟨⟨hi, ho⟩, ha⟩⟩
  · exact ⟨hk, h.ack ha, true, h.invited hseen hi, h.answered ha hi⟩
  · exact ⟨hk, h.ack ha, false, h.invite hi, h.ok ho⟩

end Justification

end Sqrkal.Discovery
