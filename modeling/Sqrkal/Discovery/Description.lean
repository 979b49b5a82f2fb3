import Sqrkal.Discovery.MediaRules
import Sqrkal.Discovery.SipPort

/-! # Reading a session description

The port of an `m=audio` line and the address of a `c=IN IP4` line stand behind the first
occurrence of their marker. Where `size_t` has 64 bits, the test whether a marker has been
found always succeeds, and without the marker the field is read from the start of the text:
from position 7 for the port, and from position 8 for the address.
-/

namespace Sqrkal.Discovery
open Foundation Message Library Relation

/-! ## Fields -/

/-- The field behind the first occurrence of a marker. -/
def lineAfter (s marker stop : List Byte) : Option (List Byte) :=
  (find s marker 0).map fun k => textUntil s (k + marker.length) stop

/-- The field `parse_sip` reads, if it takes the marker for found. -/
def readField (host : Host) (s marker : List Byte) (skip : ℕ) (stop : List Byte) : Option (List Byte) :=
  let l := uintPosition host (find s marker 0)
  if isFound host l then fieldOf host s l skip stop else none

section Fields
variable {host : Host} {s marker stop : List Byte} {l skip a : ℕ}
variable (hbits : host.sizeBits = 32 ∨ host.sizeBits = 64) (hlength : s.length < 2 ^ 32)
include hbits

theorem toUint_npos : toUint (npos host) = 2 ^ 32 - 1 := by
  unfold npos
  rcases hbits with h | h
  · rw [h]
    rfl
  · rw [h]
    rfl

theorem uintPosition_none : uintPosition host none = 2 ^ 32 - 1 := toUint_npos hbits

include hlength

omit hbits in
theorem uintPosition_some {k : ℕ} (hk : k ≤ s.length) : uintPosition host (some k) = k := by
  unfold uintPosition position toUint
  rw [Option.getD_some]
  omega

/-- A field is read from where the sum of the two offsets has wrapped to. -/
theorem fieldOf_eq (ha : toUint (l + skip) = a) (hle : a ≤ s.length) :
    fieldOf host s l skip stop = some (textUntil s a stop) := by
  unfold fieldOf
  rw [ha]
  dsimp only
  cases hm : findFirstOf s stop a with
  | some m =>
    rcases textUntil_of_some hm with ⟨ham, hms, htake⟩
    have hcount : toUint (m - l - skip) = m - a := by
      unfold toUint at ha ⊢
      omega
    rw [uintPosition_some hlength hms.le, hcount, substr, if_pos hle, htake]
  | none =>
    have hcount : s.length - a ≤ toUint ((2 ^ 32 - 1 : ℕ) - l - skip) := by
      unfold toUint at ha ⊢
      omega
    rw [uintPosition_none hbits, substr, if_pos hle, textUntil_of_none hm, List.take_of_length_le]
    rwa [List.length_drop]

section Marker
variable (hmarker : marker ≠ []) (hle : marker.length ≤ s.length)
include hmarker

omit hmarker in
theorem fieldOf_found {k : ℕ} (h : find s marker 0 = some k) :
    fieldOf host s (uintPosition host (find s marker 0)) marker.length stop =
      some (textUntil s (k + marker.length) stop) := by
  have hbound := find_bound h
  rw [h, uintPosition_some hlength (by omega)]
  apply fieldOf_eq hbits hlength _ hbound
  unfold toUint
  omega

theorem isFound_some {k : ℕ} (h : find s marker 0 = some k) :
    isFound host (uintPosition host (find s marker 0)) = true := by
  have hbound := find_bound h
  have hpos := List.length_pos_iff.mpr hmarker
  rw [h, uintPosition_some hlength (by omega)]
  unfold isFound npos
  rcases hbits with hb | hb
  · rw [hb, decide_eq_true_eq]
    omega
  · rw [hb, decide_eq_true_eq]
    omega

omit hmarker hlength in
theorem isFound_none (h : find s marker 0 = none) :
    isFound host (uintPosition host (find s marker 0)) = decide (host.sizeBits ≠ 32) := by
  rw [h, uintPosition_none hbits]
  rcases hbits with hb | hb
  · simp [isFound, npos, hb]
  · simp [isFound, npos, hb]

include hle

/-- The sum of the largest `unsigned int` and the length of the marker wraps. -/
theorem fieldOf_absent (h : find s marker 0 = none) :
    fieldOf host s (uintPosition host (find s marker 0)) marker.length stop =
      some (textUntil s (marker.length - 1) stop) := by
  have hpos := List.length_pos_iff.mpr hmarker
  rw [h, uintPosition_none hbits]
  apply fieldOf_eq hbits hlength _ (by omega)
  unfold toUint
  omega

/-- The field behind the marker or, with 64 bits and without it, one near the start. -/
theorem readField_eq : readField host s marker marker.length stop = (lineAfter s marker stop).or
    (if host.sizeBits = 32 then none else some (textUntil s (marker.length - 1) stop)) := by
  unfold readField lineAfter
  dsimp only
  cases h : find s marker 0 with
  | some k =>
    rw [← h, isFound_some hbits hlength hmarker h, if_pos rfl, fieldOf_found hbits hlength h, h]
    rfl
  | none =>
    rw [← h, isFound_none hbits h, fieldOf_absent hbits hlength hmarker hle h, h]
    by_cases hb : host.sizeBits = 32
    · simp [hb]
    · simp [hb]

/-- Nothing is thrown on the way. -/
theorem fieldOf_isSome : ∃ t, fieldOf host s (uintPosition host (find s marker 0)) marker.length stop =
    some t := by
  cases h : find s marker 0 with
  | some k =>
    rw [← h]
    exact ⟨_, fieldOf_found hbits hlength h⟩
  | none =>
    rw [← h]
    exact ⟨_, fieldOf_absent hbits hlength hmarker hle h⟩

end Marker

end Fields

/-! ## The variables -/

/-- The port that a description from one side sets. -/
def Globals.portFor (g : Globals) (inward : Bool) : ℤ := if inward then g.outport else g.inport

/-- The address that a description from one side sets. -/
def Globals.addressFor (g : Globals) (inward : Bool) : BitVec 32 := if inward then g.rtpDest else g.rtpSrc

def Globals.ports (g : Globals) : ℤ × ℤ := (g.inport, g.outport)

def Globals.addresses (g : Globals) : BitVec 32 × BitVec 32 := (g.rtpDest, g.rtpSrc)

/-- All four variables. -/
def Globals.described (g : Globals) : (ℤ × ℤ) × BitVec 32 × BitVec 32 := (g.ports, g.addresses)

def KeepsDescribed (w w' : Process) : Prop := w'.ext.described = w.ext.described

def KeepsPorts (w w' : Process) : Prop := w'.ext.ports = w.ext.ports

def describedPort (s : List Byte) : Option ℤ := (lineAfter s (text "m=audio ") (text " ")).map atoi

def describedAddress (s : List Byte) : Option (BitVec 32) :=
  (lineAfter s (text "c=IN IP4 ") (text " \n")).map fun t => inetAddr (Mem.cstr t)

/-- The address `parse_sip` reads, if it takes the marker for found. -/
def connectionAddress (host : Host) (s : List Byte) : Option (BitVec 32) :=
  (readField host s (text "c=IN IP4 ") 9 (text " \n")).map fun t => inetAddr (Mem.cstr t)

theorem audioPort_eq (host : Host) (s : List Byte) :
    audioPort host s = (readField host s (text "m=audio ") 8 (text " ")).map atoi := by
  unfold audioPort readField
  dsimp only
  split_ifs
  · rfl
  · rfl

/-- The port of one side is read from a message, and the other one stays. -/
structure SetsPort (port : Option ℤ) (inward : Bool) (g g' : Globals) : Prop where
  own : g'.portFor inward = port.getD (g.portFor inward)
  other : g'.portFor (!inward) = g.portFor (!inward)

/-- The address of one side is read from a message, and the other one stays. -/
structure SetsAddress (address : Option (BitVec 32)) (inward : Bool) (g g' : Globals) : Prop where
  own : g'.addressFor inward = address.getD (g.addressFor inward)
  other : g'.addressFor (!inward) = g.addressFor (!inward)

section Variables
variable {g g' h h' : Globals} {port port' : Option ℤ} {address address' : Option (BitVec 32)}
variable {inward : Bool}

theorem portFor_congr (hg : g'.ports = g.ports) (inward : Bool) : g'.portFor inward = g.portFor inward := by
  unfold Globals.ports at hg
  rcases Prod.mk.inj hg with ⟨hin, hout⟩
  cases inward with
  | false => exact hin
  | true => exact hout

theorem addressFor_congr (hg : g'.addresses = g.addresses) (inward : Bool) :
    g'.addressFor inward = g.addressFor inward := by
  unfold Globals.addresses at hg
  rcases Prod.mk.inj hg with ⟨hdest, hsrc⟩
  cases inward with
  | false => exact hsrc
  | true => exact hdest

theorem SetsPort.congr (hs : SetsPort port inward g h) (hg : g.ports = g'.ports)
    (hh : h'.ports = h.ports) : SetsPort port inward g' h' where
  own := by rw [portFor_congr hh, hs.own, portFor_congr hg]
  other := by rw [portFor_congr hh, hs.other, portFor_congr hg]

theorem SetsAddress.congr (hs : SetsAddress address inward g h) (hg : g.addresses = g'.addresses)
    (hh : h'.addresses = h.addresses) : SetsAddress address inward g' h' where
  own := by rw [addressFor_congr hh, hs.own, addressFor_congr hg]
  other := by rw [addressFor_congr hh, hs.other, addressFor_congr hg]

theorem setsAddress_none (hg : g'.addresses = g.addresses) : SetsAddress none inward g g' :=
  ⟨addressFor_congr hg _, addressFor_congr hg _⟩

/-- What is set tells what has been read, up to the value that was there. -/
theorem SetsPort.iff (hs : SetsPort port inward g g') : SetsPort port' inward g g' ↔
    port.getD (g.portFor inward) = port'.getD (g.portFor inward) :=
  ⟨fun h' => hs.own.symm.trans h'.own, fun h' => ⟨hs.own.trans h', hs.other⟩⟩

theorem SetsAddress.iff (hs : SetsAddress address inward g g') : SetsAddress address' inward g g' ↔
    address.getD (g.addressFor inward) = address'.getD (g.addressFor inward) :=
  ⟨fun h' => hs.own.symm.trans h'.own, fun h' => ⟨hs.own.trans h', hs.other⟩⟩

end Variables

/-! ## Runs of the parts -/

section Parts
variable {env : Env} {host : Host} {F : Functors Globals} {s : List Byte} {inward : Bool}
variable {w w' : Process} {m l : ℕ}

theorem parseAudio_sets (h : (parseAudio env host s inward).run w = .ok (m, w')) :
    SetsPort (audioPort host s) inward w.ext w'.ext ∧ w'.ext.addresses = w.ext.addresses := by
  unfold parseAudio at h
  unfold audioPort
  dsimp only at h ⊢
  by_cases hfound : isFound host (uintPosition host (find s (text "m=audio ") 0)) = true
  · rw [if_pos hfound] at h ⊢
    rcases run_bind_eq_ok h with ⟨⟨field, m'⟩, u, hfield, hrest⟩
    rcases fieldAfter_ok hfield with ⟨hf, rfl⟩
    cases hrest
    rw [hf]
    cases inward with
    | false => exact ⟨⟨rfl, rfl⟩, rfl⟩
    | true => exact ⟨⟨rfl, rfl⟩, rfl⟩
  · rw [if_neg hfound] at h ⊢
    cases h
    exact ⟨⟨rfl, rfl⟩, rfl⟩

/-- A field that can be cut out is read, with nothing changed. -/
theorem fieldAfter_run {skip : ℕ} {stop t : List Byte} (h : fieldOf host s l skip stop = some t)
    (v : Process) : (fieldAfter host s l skip stop).run v =
      .ok ((t, uintPosition host (findFirstOf s stop (toUint (l + skip)))), v) := by
  unfold fieldOf at h
  unfold fieldAfter substrOp
  dsimp only at h ⊢
  rw [h]
  rfl

/-- The address is read behind the media profile. -/
def readConnection (host : Host) (s : List Byte) (inward : Bool) : Op Unit :=
  let l := uintPosition host (find s (text "c=IN IP4 ") 0)
  if isFound host l then parseConnection host s inward l else pure ()

theorem parseConnection_ports (h : (parseConnection host s inward l).run w = .ok ((), w')) :
    KeepsPorts w w' := by
  rcases run_bind_eq_ok h with ⟨⟨field, m'⟩, u, hfield, hrest⟩
  rcases fieldAfter_ok hfield with ⟨-, rfl⟩
  cases hrest
  cases inward with
  | false => rfl
  | true => rfl

theorem readConnection_sets (h : (readConnection host s inward).run w = .ok ((), w')) :
    SetsAddress (connectionAddress host s) inward w.ext w'.ext ∧ KeepsPorts w w' := by
  unfold readConnection at h
  unfold connectionAddress readField
  dsimp only at h ⊢
  by_cases hfound : isFound host (uintPosition host (find s (text "c=IN IP4 ") 0)) = true
  · rw [if_pos hfound] at h ⊢
    refine ⟨?_, parseConnection_ports h⟩
    rcases run_bind_eq_ok h with ⟨⟨field, m'⟩, u, hfield, hrest⟩
    rcases fieldAfter_ok hfield with ⟨hf, rfl⟩
    cases hrest
    rw [hf]
    cases inward with
    | false => exact ⟨rfl, rfl⟩
    | true => exact ⟨rfl, rfl⟩
  · rw [if_neg hfound] at h ⊢
    cases h
    exact ⟨⟨rfl, rfl⟩, rfl⟩

/-- The media profile ends the discovery, or is noted in flags. -/
theorem parseProfile_cases {goOn : Bool} (h : (parseProfile env F s inward m).run w = .ok (goOn, w')) :
    (goOn = true ∧ KeepsDescribed w w') ∨ (goOn = false ∧ inward = false ∧
      isSrppProfile s m = true ∧ (stopDiscovering env F).run w = .ok ((), w')) := by
  unfold parseProfile at h
  split_ifs at h with hsavp havp hsrpp hin
  · cases h
    exact .inl ⟨rfl, rfl⟩
  · cases h
    exact .inl ⟨rfl, rfl⟩
  · rcases run_bind_eq_ok h with ⟨_, u, hstop, hrest⟩
    cases hrest
    exact .inr ⟨rfl, by simpa using hin, by simp [isSrppProfile, hsavp, havp, hsrpp], hstop⟩
  · cases h
    exact .inl ⟨rfl, rfl⟩
  · cases h
    exact .inl ⟨rfl, rfl⟩

end Parts

/-! ## Runs of the branches -/

/-- The branch of an INVITE with a session description. -/
def isInvite (s : List Byte) : Bool :=
  !contains s (text "BYE ") && !contains s (text "SIP/2.0 4") &&
    !(contains s (text "200 OK") || contains s (text "ACK ")) &&
    (contains s (text "INVITE sip:") && contains s (text "Content-Type: application/sdp"))

/-- The branch of a 200 OK or an ACK. -/
def isAnswer (s : List Byte) : Bool :=
  !contains s (text "BYE ") && !contains s (text "SIP/2.0 4") &&
    (contains s (text "200 OK") || contains s (text "ACK "))

/-- Where a branch has read what it reads of a description: in its last state, with all lines
read, or in the one in which an outgoing message ends the discovery. -/
inductive Leaves (env : Env) (host : Host) (F : Functors Globals) (s : List Byte) (inward : Bool)
    (w' : Process) : Process → Bool → Prop
  | finished : Leaves env host F s inward w' w' true
  | stopped {x : Process} (hout : inward = false) (hends : endsDiscovery host s = true)
      (h : (stopDiscovering env F).run x = .ok ((), w')) : Leaves env host F s inward w' x false

section Branches
variable {env : Env} {host : Host} {F : Functors Globals} {s : List Byte} {inward : Bool}
variable {w w' : Process} {r : ℤ}

theorem parseSip_invite (h : isInvite s = true) :
    parseSip env host F s inward = parseInvite env host F s inward := by
  simp only [isInvite, Bool.and_eq_true, Bool.not_eq_true'] at h
  rcases h with ⟨⟨⟨hbye, herror⟩, hok⟩, hinvite, hsdp⟩
  simp [parseSip, hbye, herror, hok, hinvite, hsdp]

theorem parseSip_answer (h : isAnswer s = true) :
    parseSip env host F s inward = parseOk env host F s inward := by
  simp only [isAnswer, Bool.and_eq_true, Bool.not_eq_true'] at h
  rcases h with ⟨⟨hbye, herror⟩, hok⟩
  simp [parseSip, hbye, herror, hok]

/-- What keeps to the variables in every step has kept to them at the end. -/
theorem within_keeps {α β : Type} {part : Globals → β} {x : Op α} {a : α}
    (hx : Within (fun w w' : Process => part w'.ext = part w.ext) x) (h : x.run w = .ok (a, w')) :
    part w'.ext = part w.ext :=
  (hx w).invariant (I := fun t => part t.ext = part w.ext) (fun _ _ hstep ht => hstep.trans ht) rfl h

/-- The profile is read behind the port, and a profile that ends the discovery leaves there. -/
theorem readProfile_leaves {m : ℕ} {goOn : Bool} {u v : Process}
    (haudio : (parseAudio env host s inward).run w = .ok (m, u))
    (hprofile : (parseProfile env F s inward m).run u = .ok (goOn, v)) :
    (goOn = true ∧ KeepsDescribed u v) ∨ (goOn = false ∧ Leaves env host F s inward v u false) := by
  rcases parseProfile_cases hprofile with ⟨hgo, hkeeps⟩ | ⟨hgo, hout, hsrpp, hstop⟩
  · exact .inl ⟨hgo, hkeeps⟩
  · refine .inr ⟨hgo, .stopped hout ?_ hstop⟩
    by_contra hends
    rw [parseAudio_profile (by simpa using hends) haudio] at hsrpp
    cases hsrpp

theorem finishInvite_sets (h : (finishInvite host s inward).run w = .ok (r, w')) :
    SetsAddress (connectionAddress host s) inward w.ext w'.ext ∧ KeepsPorts w w' := by
  rcases run_bind_eq_ok (x := readConnection host s inward) h with ⟨_, u, hread, hrest⟩
  rcases readConnection_sets hread with ⟨hsets, hports⟩
  have hkeeps : KeepsDescribed u w' := by
    refine within_keeps (.ite (.pure _) ?_) hrest
    refine .bind (.modify fun _ => rfl) fun _ => .bind (substrOp_within _ _ _) fun name => ?_
    refine .bind (setServer_within host (fun w g hg => ?_) _) fun _ =>
      .bind (.modify fun _ => rfl) fun _ => .pure _
    have hg' : g.beyondAddress.described = w.ext.beyondAddress.described := by rw [hg]
    exact hg'
  exact ⟨hsets.congr rfl (congrArg Prod.snd hkeeps), (congrArg Prod.fst hkeeps).trans hports⟩

theorem parseInvite_leaves (h : (parseInvite env host F s inward).run w = .ok (r, w')) :
    ∃ x read, Leaves env host F s inward w' x read ∧
      SetsPort (audioPort host s) inward w.ext x.ext ∧
      SetsAddress (if read then connectionAddress host s else none) inward w.ext x.ext := by
  rw [parseInvite_eq] at h
  rcases run_bind_eq_ok h with ⟨_, t, hnote, h⟩
  have ht : KeepsDescribed w t := by
    cases hnote
    rfl
  rcases run_bind_eq_ok h with ⟨m, u, haudio, h⟩
  rcases run_bind_eq_ok h with ⟨goOn, v, hprofile, h⟩
  rcases parseAudio_sets haudio with ⟨hport, haddresses⟩
  have hkept : u.ext.addresses = w.ext.addresses := haddresses.trans (congrArg Prod.snd ht)
  have hset : SetsPort (audioPort host s) inward w.ext u.ext := hport.congr (congrArg Prod.fst ht) rfl
  rcases readProfile_leaves haudio hprofile with ⟨rfl, hv⟩ | ⟨rfl, hleaves⟩
  · rcases finishInvite_sets h with ⟨haddress, hports⟩
    refine ⟨w', true, .finished, hset.congr rfl (hports.trans (congrArg Prod.fst hv)), ?_⟩
    exact haddress.congr ((congrArg Prod.snd hv).trans hkept) rfl
  · cases h
    exact ⟨u, false, hleaves, hset, setsAddress_none hkept⟩

/-- The ports stay when the media session of a call is set up. -/
theorem startIfReady_ports (goOn : Bool) :
    Within (fun w w' : Process => w'.ext.ports = w.ext.ports) (startIfReady host s inward goOn) := by
  have hconnection (l : ℕ) : Within (fun w w' : Process => w'.ext.ports = w.ext.ports)
      (parseConnection host s inward l) := fun w a w' h => .single (parseConnection_ports h)
  have hrules : Permits (fun w w' : Process => w'.ext.ports = w.ext.ports) Globals.beyondRules := by
    intro w g hg
    have hports : g.beyondRules.ports = w.ext.beyondRules.ports := by rw [hg]
    exact hports
  refine .ite (.pure _) (.bind .get fun _ => .ite (.pure _) (.bind (.ite ?_ (.pure _)) fun _ =>
    .bind (.modify fun _ => rfl) fun _ => .pure _))
  refine .bind .get fun _ => .bind (.ite (hconnection _) (.pure _)) fun _ =>
    .bind (.modify fun _ => rfl) fun _ => .bind .get fun _ => .ite ?_ (.pure _)
  exact .bind (addAllRtpRules_within hrules true true) fun _ => .modify fun _ => rfl

theorem parseOk_leaves (h : (parseOk env host F s inward).run w = .ok (r, w')) :
    ∃ x read, Leaves env host F s inward w' x read ∧
      SetsPort (if contains s (text "Content-Type: application/sdp") then audioPort host s else none)
        inward w.ext x.ext := by
  rw [parseOk_eq] at h
  rcases run_bind_eq_ok h with ⟨_, t, hnote, h⟩
  rcases run_bind_eq_ok h with ⟨goOn, v, hanswer, h⟩
  have ht : KeepsPorts w t := by
    unfold noteAnswer at hnote
    split_ifs at hnote
    all_goals
      cases hnote
      dsimp only [KeepsPorts]
      split_ifs <;> rfl
  unfold readAnswer at hanswer
  split_ifs at hanswer ⊢ with hsdp
  · rcases run_bind_eq_ok hanswer with ⟨m, u, haudio, hprofile⟩
    have hset : SetsPort (audioPort host s) inward w.ext u.ext := (parseAudio_sets haudio).1.congr ht rfl
    rcases readProfile_leaves haudio hprofile with ⟨rfl, hv⟩ | ⟨rfl, hleaves⟩
    · have hports := within_keeps (startIfReady_ports true) h
      exact ⟨w', true, .finished, hset.congr rfl (hports.trans (congrArg Prod.fst hv))⟩
    · cases h
      exact ⟨u, false, hleaves, hset⟩
  · cases hanswer
    have hports : KeepsPorts w w' := (within_keeps (startIfReady_ports true) h).trans ht
    exact ⟨w', true, .finished, portFor_congr hports _, portFor_congr hports _⟩

end Branches

/-! ## What a description says -/

/-- With 64 bits and without an `m=audio` line, what stands at the start of the message is read
as the port that is already set. -/
def PortAgrees (host : Host) (s : List Byte) (inward : Bool) (g : Globals) : Prop :=
  host.sizeBits = 32 ∨ contains s (text "m=audio ") = true ∨
    atoi (textUntil s 7 (text " ")) = g.portFor inward

/-- The same for a `c=IN IP4` line and the address. -/
def AddressAgrees (host : Host) (s : List Byte) (inward : Bool) (g : Globals) : Prop :=
  host.sizeBits = 32 ∨ contains s (text "c=IN IP4 ") = true ∨
    inetAddr (Mem.cstr (textUntil s 8 (text " \n"))) = g.addressFor inward

/-- An answer is read only if its content type says so. -/
def AnswerAgrees (host : Host) (s : List Byte) (inward : Bool) (g : Globals) : Prop :=
  if contains s (text "Content-Type: application/sdp") then PortAgrees host s inward g
  else ∀ port, describedPort s = some port → port = g.portFor inward

section Description
variable {env : Env} {host : Host} {F : Functors Globals} {s : List Byte} {inward : Bool} {w : Process}

theorem or_getD_iff {α : Type} {d : Option α} {c : Prop} [Decidable c] {v a : α} :
    (d.or (if c then none else some v)).getD a = d.getD a ↔ c ∨ d.isSome = true ∨ v = a := by
  cases d with
  | none =>
    by_cases hc : c
    · simp [hc]
    · simp [hc]
  | some d => simp

variable (hbits : host.sizeBits = 32 ∨ host.sizeBits = 64) (hlength : s.length < 2 ^ 32)
variable (hsdp : contains s (text "Content-Type: application/sdp") = true)
include hbits hlength hsdp

omit hbits hlength in
theorem sdp_length : 29 ≤ s.length := by
  obtain ⟨k, hk⟩ := Option.isSome_iff_exists.mp hsdp
  have hbound := find_bound hk
  have hmarker : (text "Content-Type: application/sdp").length = 29 := by decide
  omega

theorem audioPort_agrees : (audioPort host s).getD (w.ext.portFor inward) =
    (describedPort s).getD (w.ext.portFor inward) ↔ PortAgrees host s inward w.ext := by
  have hread := @readField_eq host s (text "m=audio ") (text " ") hbits hlength (by decide)
    ((show _ ≤ 29 by decide).trans (sdp_length hsdp))
  rw [audioPort_eq, show (8 : ℕ) = (text "m=audio ").length from rfl, hread, Option.map_or,
    describedPort, apply_ite (Option.map atoi), Option.map_none, Option.map_some, or_getD_iff]
  simp only [lineAfter, Option.isSome_map, show (text "m=audio ").length - 1 = 7 from rfl]
  exact Iff.rfl

theorem connectionAddress_agrees : (connectionAddress host s).getD (w.ext.addressFor inward) =
    (describedAddress s).getD (w.ext.addressFor inward) ↔ AddressAgrees host s inward w.ext := by
  have hread := @readField_eq host s (text "c=IN IP4 ") (text " \n") hbits hlength (by decide)
    ((show _ ≤ 29 by decide).trans (sdp_length hsdp))
  rw [connectionAddress, show (9 : ℕ) = (text "c=IN IP4 ").length from rfl, hread, Option.map_or,
    describedAddress, apply_ite (Option.map _), Option.map_none, Option.map_some, or_getD_iff]
  simp only [lineAfter, Option.isSome_map, show (text "c=IN IP4 ").length - 1 = 8 from rfl]
  exact Iff.rfl

/-- The lines are read without a fault. -/
theorem description_returns : (∃ m u, (parseAudio env host s inward).run w = .ok (m, u)) ∧
    ∃ u, (readConnection host s inward).run w = .ok ((), u) := by
  have hlong := sdp_length hsdp
  constructor
  · unfold parseAudio
    dsimp only
    by_cases hfound : isFound host (uintPosition host (find s (text "m=audio ") 0)) = true
    · obtain ⟨t, ht⟩ := @fieldOf_isSome host s (text "m=audio ") (text " ") hbits hlength (by decide)
        ((show _ ≤ 29 by decide).trans hlong)
      rw [show (text "m=audio ").length = 8 from rfl] at ht
      rw [if_pos hfound, run_bind_ok (fieldAfter_run ht w)]
      exact ⟨_, _, rfl⟩
    · rw [if_neg hfound]
      exact ⟨_, _, rfl⟩
  · unfold readConnection
    dsimp only
    by_cases hfound : isFound host (uintPosition host (find s (text "c=IN IP4 ") 0)) = true
    · obtain ⟨t, ht⟩ := @fieldOf_isSome host s (text "c=IN IP4 ") (text " \n") hbits hlength (by decide)
        ((show _ ≤ 29 by decide).trans hlong)
      rw [show (text "c=IN IP4 ").length = 9 from rfl] at ht
      rw [if_pos hfound, parseConnection, run_bind_ok (fieldAfter_run ht w)]
      exact ⟨_, rfl⟩
    · rw [if_neg hfound]
      exact ⟨_, rfl⟩

end Description

section Reading
variable {env : Env} {host : Host} {F : Functors Globals} {s : List Byte} {inward : Bool}

/-- For every message that `parse_sip` takes for an INVITE with a description, or for a 200 OK or an
ACK, what is set is what the description says exactly if `size_t` has 32 bits, or the marker
occurs, or the text read in its place says what is set already. -/
theorem description_read_iff (hbits : host.sizeBits = 32 ∨ host.sizeBits = 64)
    (hlength : s.length < 2 ^ 32) (w : Process) :
    (contains s (text "Content-Type: application/sdp") = true →
      (∃ m u, (parseAudio env host s inward).run w = .ok (m, u)) ∧
      ∃ u, (readConnection host s inward).run w = .ok ((), u)) ∧
    ∀ r w', (parseSip env host F s inward).run w = .ok (r, w') →
      (isInvite s = true → ∃ x read, Leaves env host F s inward w' x read ∧
        (SetsPort (describedPort s) inward w.ext x.ext ∧
            SetsAddress (if read then describedAddress s else none) inward w.ext x.ext ↔
          PortAgrees host s inward w.ext ∧ (read = true → AddressAgrees host s inward w.ext))) ∧
      (isAnswer s = true → ∃ x read, Leaves env host F s inward w' x read ∧
        (SetsPort (describedPort s) inward w.ext x.ext ↔ AnswerAgrees host s inward w.ext)) := by
  refine ⟨description_returns hbits hlength, fun r w' h => ⟨fun hinvite => ?_, fun hanswer => ?_⟩⟩
  · have hsdp : contains s (text "Content-Type: application/sdp") = true := by
      simp only [isInvite, Bool.and_eq_true] at hinvite
      exact hinvite.2.2
    rw [parseSip_invite hinvite] at h
    rcases parseInvite_leaves h with ⟨x, read, hleaves, hport, haddress⟩
    refine ⟨x, read, hleaves, and_congr ?_ ?_⟩
    · rw [hport.iff]
      exact audioPort_agrees hbits hlength hsdp
    · cases read with
      | true =>
        rw [haddress.iff]
        simpa using connectionAddress_agrees hbits hlength hsdp
      | false => simpa using haddress
  · rw [parseSip_answer hanswer] at h
    rcases parseOk_leaves h with ⟨x, read, hleaves, hport⟩
    refine ⟨x, read, hleaves, ?_⟩
    rw [hport.iff, AnswerAgrees]
    split_ifs with hsdp
    · exact audioPort_agrees hbits hlength hsdp
    · cases hd : describedPort s with
      | none => simp
      | some port => simp [eq_comm]

end Reading

/-! ## Two messages -/

/-- An incoming message is read to its end. -/
theorem leaves_inward {env : Env} {host : Host} {F : Functors Globals} {s : List Byte} {w' x : Process}
    {read : Bool} (h : Leaves env host F s true w' x read) : x = w' ∧ read = true := by
  cases h with
  | finished => exact ⟨rfl, rfl⟩
  | stopped hout => cases hout

/-- An INVITE with both lines. -/
def fullInvite : List Byte :=
  text "INVITE sip:a@b Content-Type: application/sdp c=IN IP4 10.0.0.2 m=audio 4002 RTP/AVP 0"

/-- What it says is set, also with 64 bits. -/
theorem description_read_iff_invite : ∃ r w',
    (parseSip (Env.constant 0) localHost (functors (Env.constant 0) localHost 0) fullInvite true).run
      (atMain (Env.constant 0)) = .ok (r, w') ∧
    w'.ext.outport = 4002 ∧ w'.ext.inport = 0 ∧ w'.ext.rtpDest = inetAddr (text "10.0.0.2") := by
  have hcheck : endsIn (parseSip (Env.constant 0) localHost (functors (Env.constant 0) localHost 0)
      fullInvite true) (atMain (Env.constant 0)) (fun _ => true) = true := by decide +kernel
  rcases endsIn_run hcheck with ⟨r, w', hrun, -⟩
  refine ⟨r, w', hrun, ?_⟩
  obtain ⟨x, read, hleaves, hiff⟩ := ((description_read_iff (.inr rfl) (by decide +kernel) _).2 r w' hrun).1
    (by decide +kernel)
  obtain ⟨rfl, rfl⟩ := leaves_inward hleaves
  rcases hiff.mpr ⟨.inr (.inl (by decide +kernel)), fun _ => .inr (.inl (by decide +kernel))⟩ with
    ⟨hport, haddress⟩
  rw [show describedPort fullInvite = some 4002 by decide +kernel] at hport
  rw [if_pos rfl, show describedAddress fullInvite = some (inetAddr (text "10.0.0.2")) by
    decide +kernel] at haddress
  exact ⟨hport.own, hport.other, haddress.own⟩

/-- A call in which the other endpoint has announced a port. -/
def announcedPort : List (Option Packet) :=
  [some (receivedSip 1 "INVITE sip:a@b Content-Type: application/sdp m=audio 4002 RTP/AVP 0")]

/-- An answer with a description of no audio. -/
def imageAnswer : List Byte := text "SIP/2.0 200 OK Content-Type: application/sdp m=image 4004 udptl t38"

/-- Behind such a call, an answer without an `m=audio` line clears the port. -/
theorem answer_clears_port : ¬∀ (env : Env) (host : Host) (option : ℤ) (F : Functors Globals)
    (s : List Byte) (inward : Bool) (w w' : Process) (r : ℤ), Reached env host option w →
    host.sizeBits = 32 ∨ host.sizeBits = 64 → s.length < 2 ^ 32 → isAnswer s = true →
    contains s (text "Content-Type: application/sdp") = true →
    (parseSip env host F s inward).run w = .ok (r, w') →
    ∃ x read, Leaves env host F s inward w' x read ∧ SetsPort (describedPort s) inward w.ext x.ext := by
  intro hclaim
  have hcheck : endsIn (session (Env.constant 0) localHost 0 announcedPort 1 1) (atMain (Env.constant 0))
      (fun w => decide (w.ext.outport = 4002) && endsIn (parseSip (Env.constant 0) localHost
        (functors (Env.constant 0) localHost 0) imageAnswer true) w fun w' => w'.ext.outport = 0) =
      true := by
    decide +kernel
  rcases endsIn_run hcheck with ⟨_, w, hrun, hw⟩
  rw [Bool.and_eq_true, decide_eq_true_eq] at hw
  rcases endsIn_run hw.2 with ⟨r, w', hparse, hzero⟩
  rcases hclaim _ _ _ _ _ _ w w' r (session_run hrun) (.inr rfl) (by decide +kernel) (by decide +kernel)
    (by decide +kernel) hparse with ⟨x, read, hleaves, hport⟩
  obtain ⟨rfl, -⟩ := leaves_inward hleaves
  have hkept : x.ext.outport = w.ext.outport := by
    rw [show describedPort imageAnswer = none by decide +kernel] at hport
    exact hport.own
  rw [hw.1, of_decide_eq_true hzero] at hkept
  cases hkept

end Sqrkal.Discovery
