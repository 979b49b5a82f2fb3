import Sqrkal.Discovery.Frame

/-! # SIP packets that end no session

`parse_sip` reads further packets only while it waits for the end of a session: at a BYE,
and at a message that already uses SRPP. In any other case the kind of the packet is still
the same when its handling returns.
-/

namespace Sqrkal.Discovery
open Foundation Message Library

/-- Handling the text of a SIP packet may end a session. -/
def endsSession (g : Globals) (s : List Byte) : Prop :=
  g.applySrpp = true ∧ (contains s (text "BYE ") = true ∨ contains s (text "SRPP:") = true)

instance (g : Globals) (s : List Byte) : Decidable (endsSession g s) :=
  inferInstanceAs (Decidable (_ ∧ _))

/-- The kind of the packet and the use of SRPP stay, unless SRPP is on and the text is not
free of the words that end a session. -/
def Calm (free : Prop) (w w' : Process) : Prop :=
  w.ext.applySrpp = false ∨ free →
    w'.ext.isRtp = w.ext.isRtp ∧ w'.ext.applySrpp = w.ext.applySrpp

section Calm
variable {free : Prop} {w w' : Process}

theorem calm_of_steps (h : Relation.ReflTransGen (Calm free) w w') : Calm free w w' := by
  intro hw
  induction h with
  | refl => exact ⟨rfl, rfl⟩
  | tail _ hstep ih =>
    rcases hstep (hw.imp_left ih.2.trans) with ⟨hkind, happly⟩
    exact ⟨hkind.trans ih.1, happly.trans ih.2⟩

theorem calm_globals : Permits (Calm free) fun g => (g.isRtp, g.applySrpp) := by
  intro w g h _
  exact ⟨congrArg Prod.fst h, congrArg Prod.snd h⟩

theorem calm_filter : Permits (Calm free) Globals.beyondFilter :=
  calm_globals.weaken (fun g => (g.isRtp, g.applySrpp)) fun _ => rfl

theorem calm_address : Permits (Calm free) Globals.beyondAddress :=
  calm_globals.weaken (fun g => (g.isRtp, g.applySrpp)) fun _ => rfl

theorem calm_admits : Admits (Calm free) where
  lib _ _ _ := fun _ => ⟨rfl, rfl⟩
  complete _ := fun _ => ⟨rfl, rfl⟩
  globals := calm_globals.weaken (fun c => (c.isRtp, c.applySrpp)) fun _ => rfl
  event _ _ _ := fun _ => ⟨rfl, rfl⟩

end Calm

section Parsing
variable {env : Env} {host : Host} {F : Functors Globals} {free : Prop} {s : List Byte}

/-- Where SRPP is on, nothing is promised. -/
theorem WithinAt.of_applied {α : Type} {x : Op α} {w : Process} (hfree : ¬free)
    (h : w.ext.applySrpp = false → WithinAt (Calm free) w x) : WithinAt (Calm free) w x := by
  cases hw : w.ext.applySrpp with
  | false => exact h hw
  | true =>
    intro a w' _
    refine .single fun hcalm => absurd hcalm ?_
    rw [hw]
    exact not_or.mpr ⟨by decide, hfree⟩

theorem stopDiscovering_calm (hfree : ¬free) : Within (Calm free) (stopDiscovering env F) := by
  intro w
  refine WithinAt.of_applied hfree fun hw => .get_bind ?_
  rw [if_neg (by rw [hw]; decide)]
  refine .bind (Within.pure _ w) fun _ u _ => .modify_bind (.single fun _ => ⟨rfl, rfl⟩) ?_
  exact Within.bind (addAllRules_within calm_filter.rules _ _) (fun _ => .pure _) _

theorem parseProfile_calm (hfree : free → contains s (text "SRPP:") = false) (inward : Bool) (m : ℕ) :
    Within (Calm free) (parseProfile env F s inward m) := by
  by_cases h : free
  · have hnone : find s (text "SRPP:") m = none := find_eq_none (hfree h) m
    unfold parseProfile
    rw [hnone]
    refine .ite ?_ (.ite ?_ ?_)
    · exact .bind (calm_admits.setGlobals fun _ => rfl) fun _ => .pure _
    · exact .bind (calm_admits.setGlobals fun _ => rfl) fun _ => .pure _
    · rw [if_neg (by simp)]
      exact .pure _
  · exact parseProfile_within env calm_admits.media.quiet (stopDiscovering_calm h) s inward m

theorem finishBye_calm (applied complete : Bool) : Within (Calm free) (finishBye applied complete) :=
  .bind (addAllRtpRules_within calm_filter.rules _ _) fun _ => .bind (calm_admits.setGlobals fun _ => rfl)
    fun _ => .bind (calm_admits.setGlobals fun _ => rfl) fun _ =>
      .bind (.modify fun _ _ => ⟨rfl, rfl⟩) fun _ => .pure _

theorem parseBye_calm (hfree : ¬free) : Within (Calm free) (parseBye env F) := by
  intro w
  refine WithinAt.of_applied hfree fun hw => .get_bind ?_
  split_ifs
  · exact Within.pure _ w
  · refine .get_bind (.modify_bind (.single fun _ => ⟨rfl, rfl⟩) (.get_bind ?_))
    rw [if_neg (by dsimp only; rw [hw]; decide)]
    exact Within.bind (.pure _) (fun _ => finishBye_calm _ _) _

theorem parseSip_calm (inward : Bool) :
    Within (Calm (contains s (text "BYE ") = false ∧ contains s (text "SRPP:") = false))
      (parseSip env host F s inward) := by
  intro w
  refine parseSip_within env host calm_admits.calls (parseProfile_calm And.right inward)
    (fun _ u _ => parseAudio_within env host calm_admits.media.quiet calm_filter s inward u)
    (fun hb => parseBye_calm (fun hfree => ?_) w)
    (startMedia_within host calm_admits.calls (calm_admits.setGlobals fun _ => rfl)
      (addAllRtpRules_within calm_filter.rules _ _) s inward)
    (setServer_within host calm_address)
  rw [hfree.1] at hb
  cases hb

/-- A SIP packet that ends no session takes no other branch afterwards. -/
theorem handleSip_kind {w v : Process} {p : Packet} {inward : Bool} {r : Mem × ℤ}
    (hs : ¬endsSession w.ext (sipText p))
    (h : (handleSip env host F p.id p.mem p.bytes.length inward).run (enterSip w p) = .ok (r, v)) :
    v.ext.isRtp = false := by
  have hwithin : WithinAt (Calm (contains (sipText p) (text "BYE ") = false ∧
      contains (sipText p) (text "SRPP:") = false)) (enterSip w p)
      (handleSip env host F p.id p.mem p.bytes.length inward) :=
    handleSip_within env host calm_admits.media.quiet (fun _ _ _ _ => ⟨rfl, rfl⟩) calm_address
      (parseSip_calm inward (enterSip w p))
  refine (calm_of_steps (hwithin r v h) ?_).1
  simp only [endsSession, not_and, not_or, Bool.not_eq_true] at hs
  cases happly : w.ext.applySrpp with
  | false => exact .inl happly
  | true => exact .inr (hs happly)

end Parsing

end Sqrkal.Discovery
