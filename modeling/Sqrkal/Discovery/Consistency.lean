import Sqrkal.Discovery.InternetChecksum
import Sqrkal.Discovery.Quiet

/-! # Datagrams that agree with their headers

`form_checksums` adds up twenty bytes, and the media branches take twenty bytes off the
length for the UDP header, whatever the header length of the packet is. The SIP branch
leaves the lengths as they came.
-/

namespace Sqrkal.Discovery
open Foundation Mem Message Library Relation

/-! ## Sums over a header -/

/-- The sum of the words between the first twenty bytes and the end of the header. -/
def optionSum (m : Mem) : ℕ := wordSum m 20 (4 * ihl m - 20)

theorem ihl_lt (m : Mem) : ihl m < 16 := ((m 0).extractLsb' 0 4).isLt

section Checksums
variable {m : Mem}

variable (h : 5 ≤ ihl m)
include h

theorem ihl_formChecksums : ihl (formChecksums m) = ihl m := by
  apply ihl_congr
  have ht : transportAt m = 4 * ihl m := rfl
  exact formChecksums_agreesOn_of (.inl (show (1 : ℤ) ≤ 10 by decide)) (.inl (by omega)) 0 le_rfl
    (by decide)

/-- The checksum verifies over the whole header exactly if the options do not count. -/
theorem formChecksums_verifies_iff :
    onesFold (wordSum (formChecksums m) 0 (4 * ihl m)) = 65535 ↔ optionSum m % 65535 = 0 := by
  have ht : transportAt m = 4 * ihl m := rfl
  have hlt := ihl_lt m
  have hoptions : AgreesOn (formChecksums m) m 20 (4 * ihl m) :=
    formChecksums_agreesOn_of (.inr (by omega)) (.inl (by omega))
  let blank := m.store16 10 0
  have hhead : AgreesOn (formChecksums m) (blank.store16 10 (inCksum blank 20)) 0 20 :=
    store16_agreesOn _ _ _ (by omega)
  have hblank : blank.store16 10 0 = blank := by
    have hload : blank.load16 10 = 0 := load16_store16 m 10 0
    rw [← hload]
    exact store16_load16 blank 10
  have hsum : wordSum (formChecksums m) 0 20 =
      wordSum blank 0 20 + (65535 - onesFold (wordSum blank 0 20)) := by
    have hword : wordSum (blank.store16 10 (inCksum blank 20)) 0 20 =
        wordSum (blank.store16 10 0) 0 20 + (inCksum blank 20).toNat :=
      wordSum_store16 blank 0 _ (show 2 * 5 + 2 ≤ 20 by decide)
    rw [wordSum_congr hhead, hword, hblank, inCksum_toNat]
  have hrest : wordSum (formChecksums m) 20 (4 * ihl m - 20) = optionSum m := by
    apply wordSum_congr
    rwa [show (20 : ℤ) + ((4 * ihl m - 20 : ℕ) : ℤ) = 4 * ihl m by omega]
  have hbounds : wordSum blank 0 20 ≤ 65535 * 10 ∧ optionSum m ≤ 65535 * 20 := by
    refine ⟨wordSum_le blank 0 20, (wordSum_le m 20 (4 * ihl m - 20)).trans ?_⟩
    omega
  rw [show 4 * ihl m = 2 * 10 + (4 * ihl m - 20) by omega, wordSum_add,
    show (0 : ℤ) + 2 * (10 : ℕ) = 20 by norm_num, hrest, show 2 * 10 = 20 from rfl, hsum]
  exact complement_verifies_iff (by omega)

end Checksums

/-! ## Datagrams -/

/-- A datagram at the beginning of a buffer has a UDP header in it, the right lengths in its
headers, and a header checksum that verifies. -/
structure ConsistentIn (m : Mem) (n : ℤ) : Prop where
  headers : transportAt m + 8 ≤ n
  totLen : m.load16 2 = htonsInt n
  udpLen : m.load16 (transportAt m + 4) = htonsInt (n - transportAt m)
  checksum : onesFold (wordSum m 0 (4 * ihl m)) = 65535

instance (m : Mem) (n : ℤ) : Decidable (ConsistentIn m n) :=
  decidable_of_iff (transportAt m + 8 ≤ n ∧ m.load16 2 = htonsInt n ∧
    m.load16 (transportAt m + 4) = htonsInt (n - transportAt m) ∧
    onesFold (wordSum m 0 (4 * ihl m)) = 65535)
    ⟨fun h => ⟨h.1, h.2.1, h.2.2.1, h.2.2.2⟩, fun h => ⟨h.headers, h.totLen, h.udpLen, h.checksum⟩⟩

/-- A datagram that agrees with its own headers. -/
def SelfConsistent (d : List Byte) : Prop := ConsistentIn (around (fun _ => 0) d) d.length

instance (d : List Byte) : Decidable (SelfConsistent d) := inferInstanceAs (Decidable (ConsistentIn _ _))

section Datagram
variable {m m' : Mem} {n : ℤ}

theorem transportAt_nonneg (m : Mem) : 0 ≤ transportAt m := by
  unfold transportAt
  positivity

theorem ConsistentIn.congr (h : ConsistentIn m n) (ha : AgreesOn m' m 0 n) : ConsistentIn m' n := by
  have hheaders := h.headers
  have hnonneg := transportAt_nonneg m
  have hihl : ihl m' = ihl m := ihl_congr (ha 0 le_rfl (by omega))
  have ht : transportAt m' = transportAt m := transportAt_congr hihl
  refine ⟨by rw [ht]; exact hheaders, ?_, ?_, ?_⟩
  · rw [ha.load16 (by omega) (by omega)]
    exact h.totLen
  · rw [ht, ha.load16 (by omega) (by omega)]
    exact h.udpLen
  · have hsize : transportAt m = 4 * ihl m := rfl
    have hsum : wordSum m' 0 (4 * ihl m) = wordSum m 0 (4 * ihl m) :=
      wordSum_congr (ha.mono le_rfl (by push_cast; omega))
    rw [hihl, hsum]
    exact h.checksum

theorem selfConsistent_read_iff {k : ℕ} : SelfConsistent (m.read 0 k) ↔ ConsistentIn m k := by
  have ha : AgreesOn (around (fun _ => 0) (m.read 0 k)) m 0 k := write_read_agreesOn _ m k
  rw [SelfConsistent, read_length]
  exact ⟨fun h => h.congr ha.symm, fun h => h.congr ha⟩

/-- Behind `form_checksums` a datagram is consistent exactly if the lengths were right and the
options do not count. -/
theorem consistentIn_formChecksums_iff (h : 5 ≤ ihl m) :
    ConsistentIn (formChecksums m) n ↔ transportAt m + 8 ≤ n ∧ m.load16 2 = htonsInt n ∧
      m.load16 (transportAt m + 4) = htonsInt (n - transportAt m) ∧ optionSum m % 65535 = 0 := by
  have hihl := ihl_formChecksums h
  have hsize : transportAt m = 4 * ihl m := rfl
  have ht : transportAt (formChecksums m) = transportAt m := transportAt_congr hihl
  have htot : AgreesOn (formChecksums m) m 2 4 :=
    formChecksums_agreesOn_of (.inl (by omega)) (.inl (by omega))
  have hudp : AgreesOn (formChecksums m) m (transportAt m + 4) (transportAt m + 6) :=
    formChecksums_agreesOn_of (.inr (by omega)) (.inl le_rfl)
  rw [← htot.load16 le_rfl le_rfl, ← hudp.load16 le_rfl (by omega), ← formChecksums_verifies_iff h,
    ← ht, ← hihl]
  constructor
  · intro hc
    exact ⟨hc.headers, hc.totLen, hc.udpLen, hc.checksum⟩
  · rintro ⟨hheaders, htotLen, hudpLen, hsum⟩
    exact ⟨hheaders, htotLen, hudpLen, hsum⟩

end Datagram

/-! ## The headers the branches write -/

theorem htonsInt_inj {a b : ℤ} (h : htonsInt a = htonsInt b) : a % 65536 = b % 65536 := by
  have hint : BitVec.ofInt 16 a = BitVec.ofInt 16 b := by
    have hswap := congrArg htons h
    rwa [htonsInt, htonsInt, htons_htons, htons_htons] at hswap
  have hnat := congrArg BitVec.toNat hint
  rw [BitVec.toNat_ofInt, BitVec.toNat_ofInt] at hnat
  omega

/-- The UDP header says how long the datagram is, and the options do not count. -/
structure FramedIn (m : Mem) (n : ℤ) : Prop where
  fits : transportAt m + 8 ≤ n
  udpLen : m.load16 (transportAt m + 4) = htonsInt (n - transportAt m)
  options : optionSum m % 65535 = 0

/-- The headers of a SIP packet that is forwarded. -/
def addressSip (port : BitVec 16) (addr : BitVec 32) (ttl : ℤ) (buff : Mem) : Mem :=
  let buff := (buff.store16 (transportAt buff) (htonsInt 5060)).store16 (transportAt buff + 2) port
  setTtl (setDaddr buff addr) ttl

section Branches
variable {buff : Mem} {n : ℤ} (h : 5 ≤ ihl buff) (port : BitVec 16) (addr : BitVec 32) (ttl : ℤ)
include h

/-- The media branches always take twenty bytes off for the IP header. -/
theorem readdress_consistent_iff (hn : 28 ≤ n) :
    ConsistentIn (formChecksums (readdress port addr ttl buff n (transportAt buff))) n ↔
      ihl buff = 5 := by
  let m := readdress port addr ttl buff n (transportAt buff)
  have hsize : transportAt buff = 4 * ihl buff := rfl
  have hfirst : m 0 = buff 0 := by
    simp only [m, readdress, setTtl, setTotLen, setDaddr, store16, store32]
    rw [write_apply_outside (by simp), write_apply_outside (by simp),
      write_apply_outside (by simp; omega), write_apply_outside (by simp),
      write_apply_outside (by simp; omega)]
  have hihl : ihl m = ihl buff := ihl_congr hfirst
  have ht : transportAt m = transportAt buff := transportAt_congr hihl
  have htot : m.load16 2 = htonsInt n := by
    simp only [m, readdress, setTtl, setTotLen]
    rw [load16_write_of_disjoint (by simp), load16_store16]
  have hudp : m.load16 (transportAt buff + 4) = htonsInt (n - 20) := by
    simp only [m, readdress, setTtl, setTotLen]
    rw [load16_write_of_disjoint (by simp; omega), store16, load16_write_of_disjoint (by simp; omega),
      load16_store16]
  rw [consistentIn_formChecksums_iff (by rw [hihl]; exact h), ht, htot, hudp, optionSum, hihl]
  constructor
  · rintro ⟨-, -, hlen, -⟩
    have hmod := htonsInt_inj hlen
    have hlt := ihl_lt buff
    omega
  · intro hfive
    rw [hfive] at hsize ⊢
    rw [hsize]
    exact ⟨by omega, rfl, rfl, rfl⟩

/-- Behind the SIP branch the offset may point eight bytes further, past the UDP header. -/
theorem readdress_behind_iff :
    ConsistentIn (formChecksums (readdress port addr ttl buff n (transportAt buff + 8))) n ↔
      FramedIn buff n := by
  let m := readdress port addr ttl buff n (transportAt buff + 8)
  have hsize : transportAt buff = 4 * ihl buff := rfl
  have hframe : ∀ {lo hi : ℤ}, hi ≤ 2 ∨ 20 ≤ lo → hi ≤ transportAt buff + 10 → AgreesOn m buff lo hi := by
    intro lo hi hip hport
    exact (write_agreesOn (by simp; omega)).trans ((store16_agreesOn _ _ _ (by omega)).trans
      ((store16_agreesOn _ _ _ (by omega)).trans ((store32_agreesOn _ _ _ (by omega)).trans
        (store16_agreesOn _ _ _ (by omega)))))
  have hihl : ihl m = ihl buff :=
    ihl_congr (hframe (.inl le_rfl) (by omega) 0 le_rfl (by decide))
  have ht : transportAt m = transportAt buff := transportAt_congr hihl
  have htot : m.load16 2 = htonsInt n := by
    simp only [m, readdress, setTtl, setTotLen]
    rw [load16_write_of_disjoint (by simp), load16_store16]
  have hudp : AgreesOn m buff (transportAt buff + 4) (transportAt buff + 6) :=
    hframe (.inr (by omega)) (by omega)
  have hoptions : AgreesOn m buff 20 (transportAt buff) := hframe (.inr le_rfl) (by omega)
  have hsum : optionSum m = optionSum buff := by
    rw [optionSum, optionSum, hihl]
    exact wordSum_congr (hoptions.mono le_rfl (by omega))
  rw [consistentIn_formChecksums_iff (by rw [hihl]; exact h), ht, htot, hsum,
    hudp.load16 le_rfl (by omega)]
  exact ⟨fun hc => ⟨hc.1, hc.2.2.1, hc.2.2.2⟩, fun hc => ⟨hc.fits, rfl, hc.udpLen, hc.options⟩⟩

/-- The SIP branch writes the ports, the destination and the time to live. -/
theorem addressSip_frame {lo hi : ℤ} (hip : hi ≤ 8 ∨ 20 ≤ lo)
    (hports : hi ≤ transportAt buff ∨ transportAt buff + 4 ≤ lo) :
    AgreesOn (addressSip port addr ttl buff) buff lo hi := by
  have hsize : transportAt buff = 4 * ihl buff := rfl
  exact (write_agreesOn (by simp; omega)).trans ((store32_agreesOn _ _ _ (by omega)).trans
    ((store16_agreesOn _ _ _ (by omega)).trans (store16_agreesOn _ _ _ (by omega))))

theorem ihl_addressSip : ihl (addressSip port addr ttl buff) = ihl buff := by
  have hsize : transportAt buff = 4 * ihl buff := rfl
  have hframe : AgreesOn (addressSip port addr ttl buff) buff 0 8 :=
    addressSip_frame h port addr ttl (.inl le_rfl) (.inl (by omega))
  exact ihl_congr (hframe 0 le_rfl (by decide))

/-- The SIP branch leaves the lengths and the options as they are. -/
theorem addressSip_consistent_iff (hfits : transportAt buff + 8 ≤ n)
    (htot : buff.load16 2 = htonsInt n)
    (hudp : buff.load16 (transportAt buff + 4) = htonsInt (n - transportAt buff)) :
    ConsistentIn (formChecksums (addressSip port addr ttl buff)) n ↔ optionSum buff % 65535 = 0 := by
  let m := addressSip port addr ttl buff
  have hsize : transportAt buff = 4 * ihl buff := rfl
  have hfirst : AgreesOn m buff 0 8 := addressSip_frame h port addr ttl (.inl le_rfl) (.inl (by omega))
  have hlast : AgreesOn m buff (transportAt buff + 4) (transportAt buff + 6) :=
    addressSip_frame h port addr ttl (.inr (by omega)) (.inr le_rfl)
  have hoptions : AgreesOn m buff 20 (transportAt buff) :=
    addressSip_frame h port addr ttl (.inr le_rfl) (.inl le_rfl)
  have hihl : ihl m = ihl buff := ihl_addressSip h port addr ttl
  have ht : transportAt m = transportAt buff := transportAt_congr hihl
  have hsum : optionSum m = optionSum buff := by
    rw [optionSum, optionSum, hihl]
    exact wordSum_congr (hoptions.mono le_rfl (by omega))
  rw [consistentIn_formChecksums_iff (by rw [hihl]; exact h), ht, hsum,
    hfirst.load16 (by decide) (by decide), hlast.load16 le_rfl (by omega)]
  exact ⟨fun hc => hc.2.2.2, fun hc => ⟨hfits, htot, hudp, hc⟩⟩

/-- The first fragment has the header length of the packet. -/
theorem ihl_firstFragment_of (fragId : ℤ) : ihl (firstFragment fragId buff) = ihl buff := by
  have hhead : AgreesOn (firstHeader fragId buff) buff 0 2 :=
    (store16_agreesOn _ _ _ (by omega)).trans
      ((store16_agreesOn _ _ _ (by omega)).trans (store16_agreesOn _ _ _ (by omega)))
  have hihl : ihl (firstHeader fragId buff) = ihl buff := ihl_congr (hhead 0 le_rfl (by decide))
  have hsame : ihl (formChecksums (firstHeader fragId buff)) = ihl (firstHeader fragId buff) :=
    ihl_formChecksums (by rw [hihl]; exact h)
  exact hsame.trans hihl

end Branches

/-! ## The datagram of a packet -/

/-- Between two states a packet has been handed over and sent as one datagram. -/
def SendsWhole (id : ℕ) (w w' : Process) (d : Datagram) : Prop :=
  ∃ later earlier, w'.log = later ++ .rawMessage id d :: .handedOver id :: (earlier ++ w.log)

section Sending
variable {env : Env} {id : ℕ} {w u v : Process} {events : List Event} {d : Datagram}

/-- What has been sent has been said. -/
theorem not_sendsWhole (hlog : v.log = events ++ w.log) (hevents : ∀ e ∈ events, ¬IsOf id e) :
    ¬SendsWhole id w v d := by
  rintro ⟨later, earlier, h⟩
  rw [hlog, ← List.cons_append, ← List.cons_append, ← List.append_assoc] at h
  have hsaid := List.append_cancel_right h
  exact hevents (.handedOver id) (by simp [hsaid]) rfl

theorem not_sendsWhole_of_log (hlog : v.log = w.log) : ¬SendsWhole id w v d :=
  not_sendsWhole (hlog.trans (List.nil_append _).symm) (by simp)

/-- The datagram of a forwarded packet is what the buffer holds behind `form_checksums`. -/
theorem forward_sendsWhole {buff buff' : Mem} {n : ℤ} (hlog : u.log = events ++ w.log)
    (hevents : ∀ e ∈ events, ¬IsOf id e)
    (h : (forward env id buff n).run u = .ok (buff', v)) (hd : SendsWhole id w v d) :
    0 < n ∧ d.bytes = (formChecksums buff).read 0 n.toNat := by
  rcases hd with ⟨later, earlier, hd⟩
  have hfresh : Event.handedOver id ∉ events := fun he => hevents _ he rfl
  have hcut : ∀ new : List Event, v.log = new ++ .handedOver id :: u.log →
      .handedOver id ∉ new → new = later ++ [.rawMessage id d] := by
    intro new hnew hmem
    rw [hnew, hlog, ← List.cons_append, ← List.append_assoc, ← List.cons_append, ← List.cons_append,
      ← List.append_assoc] at hd
    have hsaid := List.append_cancel_right hd
    rw [List.append_cons later] at hsaid
    exact ((List.append_cons_inj_of_notMem hmem hfresh).mp hsaid).1
  have hraw : ∀ b a k, Event.handedOver id ∉ rawEvents id b a k := by
    intro b a k
    unfold rawEvents
    split_ifs <;> simp
  rcases (forward_cases h).2 with hv | ⟨b, k, hv⟩
  · have hsent := hcut _ hv (hraw _ _ _)
    unfold rawEvents at hsent
    split_ifs at hsent with hnone
    · simp at hsent
    · have hone := congrArg List.getLast? hsent
      simp only [List.getLast?_singleton, List.getLast?_append, Option.some_or, Option.some.injEq,
        Event.rawMessage.injEq, true_and] at hone
      rw [← hone]
      exact ⟨by omega, rfl⟩
  · -- in front of a pair of fragments stands that the packet is fragmented
    have hsent := hcut (rawEvents id b u.ext.outAddr k ++
      rawEvents id (firstFragment u.ext.fragId buff) u.ext.outAddr ipMtu ++ [.fragmented id])
      (by rw [hv, List.append_cons]) (by simp [hraw])
    have hlast := congrArg List.getLast? hsent
    simp at hlast

theorem sendsWhole_consistent_iff {buff buff' : Mem} {n : ℤ} (hlog : u.log = events ++ w.log)
    (hevents : ∀ e ∈ events, ¬IsOf id e)
    (h : (forward env id buff n).run u = .ok (buff', v)) (hd : SendsWhole id w v d) :
    SelfConsistent d.bytes ↔ ConsistentIn (formChecksums buff) n := by
  rcases forward_sendsWhole hlog hevents h hd with ⟨hpos, hbytes⟩
  rw [hbytes, selfConsistent_read_iff, Int.toNat_of_nonneg hpos.le]

/-- What forwarding leaves in the buffer. -/
theorem forward_buff {buff buff' : Mem} {n : ℤ} (h : (forward env id buff n).run u = .ok (buff', v)) :
    buff' = formChecksums buff ∨ buff' = firstFragment u.ext.fragId buff := by
  by_cases hfits : n ≤ ipMtu
  · cases h.symm.trans (forward_fits env id buff u hfits)
    exact .inl rfl
  · have hrun : (forward env id buff n).run u =
        (sendFragmentedMessage env id buff n).run { u with log := .handedOver id :: u.log } := by
      rw [forward, run_bind_ok (observe_run _ _), if_pos (not_le.mp hfits)]
    cases h.symm.trans (hrun.trans (sendFragmentedMessage_run env id buff _ n))
    exact .inr rfl

/-- Between two states nothing has been said about a packet until a buffer has been forwarded
for it, and nothing since. -/
def Posts (env : Env) (id : ℕ) (buff : Mem) (n : ℤ) (w w' : Process) : Prop :=
  ∃ u v b events, u.log = events ++ w.log ∧ (∀ e ∈ events, ¬IsOf id e) ∧
    (forward env id buff n).run u = .ok (b, v) ∧ w'.log = v.log

variable {buff : Mem} {n : ℤ}

theorem posts_of_forward {b : Mem} (h : (forward env id buff n).run u = .ok (b, v))
    (hlog : u.log = events ++ w.log) (hevents : ∀ e ∈ events, ¬IsOf id e) :
    Posts env id buff n w v :=
  ⟨u, v, b, events, hlog, hevents, h, rfl⟩

theorem Posts.congr {v' : Process} (h : Posts env id buff n w v) (hv : v'.log = v.log) :
    Posts env id buff n w v' := by
  rcases h with ⟨u, v₁, b, events, hlog, hevents, hrun, hlast⟩
  exact ⟨u, v₁, b, events, hlog, hevents, hrun, hv.trans hlast⟩

theorem Posts.consistent_iff (h : Posts env id buff n w v) (hd : SendsWhole id w v d) :
    SelfConsistent d.bytes ↔ ConsistentIn (formChecksums buff) n := by
  rcases h with ⟨u, v', b, events, hlog, hevents, hrun, hv⟩
  have hd' : SendsWhole id w v' d := by
    rcases hd with ⟨later, earlier, hsent⟩
    exact ⟨later, earlier, hv.symm.trans hsent⟩
  exact sendsWhole_consistent_iff hlog hevents hrun hd'

/-- The first thing that is said about the packet is that it has been handed over. -/
theorem Posts.log (h : Posts env id buff n w v) : ∃ new, v.log = new ++ w.log ∧
    ∀ later, new ≠ later ++ [.rawMessage id d] := by
  rcases h with ⟨u, v', b, events, hlog, hevents, hrun, hv⟩
  have hfirst : ∀ sent later : List Event,
      sent ++ .handedOver id :: events ≠ later ++ [.rawMessage id d] := by
    intro sent later heq
    have hrev := congrArg List.reverse heq
    rw [List.reverse_append, List.reverse_cons, List.reverse_append, List.reverse_singleton,
      List.append_assoc, List.singleton_append, List.singleton_append] at hrev
    cases hback : events.reverse with
    | nil =>
      rw [hback, List.nil_append] at hrev
      cases hrev
    | cons e rest =>
      rw [hback, List.cons_append, List.cons.injEq] at hrev
      refine hevents e (List.mem_reverse.mp (by rw [hback]; exact List.mem_cons_self)) ?_
      rw [hrev.1]
      rfl
  have hsplit : ∃ sent, v'.log = sent ++ .handedOver id :: u.log := by
    rcases (forward_cases hrun).2 with hsent | ⟨b, k, hsent⟩
    · exact ⟨_, hsent⟩
    · exact ⟨_, by rw [hsent, List.append_cons]⟩
  rcases hsplit with ⟨sent, hsent⟩
  exact ⟨sent ++ .handedOver id :: events,
    by rw [hv, hsent, hlog, List.append_assoc, List.cons_append], hfirst sent⟩

/-- A datagram that was sent in two phases of a run was sent in one of them, if the second
phase does not begin with it. -/
theorem SendsWhole.split {old new : List Event} (hold : u.log = old ++ w.log)
    (hnew : v.log = new ++ u.log) (hfirst : ∀ later, new ≠ later ++ [.rawMessage id d])
    (h : SendsWhole id w v d) : SendsWhole id w u d ∨ SendsWhole id u v d := by
  rcases h with ⟨later, earlier, h⟩
  rw [hnew, hold, ← List.append_assoc, ← List.cons_append, ← List.cons_append, ← List.append_assoc,
    List.append_cons later] at h
  rcases List.append_eq_append_iff.mp (List.append_cancel_right h) with ⟨m, hm, hrest⟩ | ⟨m, hm, hrest⟩
  · rcases m.eq_nil_or_concat with rfl | ⟨m, last, rfl⟩
    · rw [List.append_nil] at hm
      exact absurd hm.symm (hfirst later)
    · rw [List.concat_eq_append, ← List.append_assoc] at hm
      rcases List.append_inj' hm rfl with ⟨-, hlast⟩
      cases hlast
      exact .inl ⟨m, earlier, by rw [hold, hrest]; simp⟩
  · cases m with
    | nil =>
      rw [List.append_nil] at hm
      exact absurd hm (hfirst later)
    | cons e m =>
      cases hrest
      exact .inr ⟨later, m, by rw [hnew, hm]; simp⟩

/-! ### The branches -/

section Delivery
variable {events : List Event} {c : Mem × ℤ} {offset : ℤ} (hlog : u.log = events ++ w.log)
  (hevents : ∀ e ∈ events, ¬IsOf id e)
include hlog hevents

theorem deliverInbound_posts (h : (deliverInbound env id c.1 c.2 offset).run u = .ok ((), v)) :
    ∃ port addr ttl, Posts env id (readdress port addr ttl c.1 c.2 offset) c.2 w v := by
  rw [deliverInbound, run_get_bind] at h
  dsimp only at h
  rw [run_bind_ok (setGlobals_run _ _), addressInbound_eq] at h
  rcases run_bind_eq_ok h with ⟨_, _, hforward, hend⟩
  cases hend
  exact ⟨_, _, _, posts_of_forward hforward (by exact hlog) hevents⟩

theorem deliverOutbound_posts (h : (deliverOutbound env id c.1 c.2 offset).run u = .ok ((), v)) :
    ∃ port addr ttl, Posts env id (readdress port addr ttl c.1 c.2 offset) c.2 w v := by
  rw [deliverOutbound, run_bind_ok (setGlobals_run _ _), run_get_bind] at h
  dsimp only at h
  rw [addressOutbound_eq, captureHeader, run_bind_ok (setGlobals_run _ _),
    run_bind_ok (setGlobals_run _ _)] at h
  rcases run_bind_eq_ok h with ⟨_, _, hforward, hend⟩
  cases hend
  exact ⟨_, _, _, posts_of_forward hforward (by exact hlog) hevents⟩

/-- Forwarding a SIP packet: its headers are written, and it is forwarded. The header length
stays. -/
theorem forwardSip_posts {buff' : Mem} {inward : Bool} (hihl : 5 ≤ ihl buff)
    (h : (forwardSip env id buff n inward).run u = .ok (buff', v)) :
    v.ext.queue = u.ext.queue ∧ ihl buff' = ihl buff ∧
      ∃ port addr ttl, Posts env id (addressSip port addr ttl buff) n w v := by
  rcases run_bind_eq_ok h with ⟨_, u', hfirst, h⟩
  rw [run_get_bind] at h
  rcases run_bind_eq_ok h with ⟨b, v', hforward, h⟩
  rcases run_bind_eq_ok h with ⟨_, v'', hlast, h⟩
  cases h
  have hfirst' : u'.log = u.log ∧ u'.ext.queue = u.ext.queue := by
    split_ifs at hfirst
    · cases hfirst
      exact ⟨rfl, rfl⟩
    · cases hfirst
      exact ⟨rfl, rfl⟩
  have hlast' : v.log = v'.log ∧ v.ext.queue = v'.ext.queue := by
    split_ifs at hlast
    · cases hlast
      exact ⟨rfl, rfl⟩
    · cases hlast
      exact ⟨rfl, rfl⟩
  rcases (forward_cases hforward).1 with ⟨t, k, -, hext⟩
  refine ⟨by rw [hlast'.2, hext]; exact hfirst'.2, ?_, _, _, _,
    (posts_of_forward hforward (hfirst'.1 ▸ hlog) hevents).congr hlast'.1⟩
  have haddress := ihl_addressSip hihl u'.ext.outAddr.port u'.ext.outAddr.addr u'.ext.srppTtl
  have hheader : 5 ≤ ihl (addressSip u'.ext.outAddr.port u'.ext.outAddr.addr u'.ext.srppTtl buff) := by
    rw [haddress]
    exact hihl
  rcases forward_buff hforward with rfl | rfl
  · exact (ihl_formChecksums hheader).trans haddress
  · exact (ihl_firstFragment_of hheader _).trans haddress

end Delivery

end Sending

/-! ## One packet -/

/-- A UDP packet whose length fields say how long it is. -/
structure HasLengths (p : Packet) : Prop where
  udp : p.mem 9 = 17
  header : 5 ≤ ihl p.mem
  fits : transportAt p.mem + 8 ≤ p.bytes.length
  totLen : p.mem.load16 2 = htonsInt p.bytes.length
  udpLen : p.mem.load16 (transportAt p.mem + 4) = htonsInt (p.bytes.length - transportAt p.mem)

theorem HasLengths.length {p : Packet} (h : HasLengths p) : (28 : ℤ) ≤ p.bytes.length := by
  have hfits := h.fits
  have hheader := h.header
  unfold transportAt at hfits
  omega

instance (p : Packet) : Decidable (HasLengths p) :=
  decidable_of_iff (p.mem 9 = 17 ∧ 5 ≤ ihl p.mem ∧ transportAt p.mem + 8 ≤ p.bytes.length ∧
    p.mem.load16 2 = htonsInt p.bytes.length ∧
    p.mem.load16 (transportAt p.mem + 4) = htonsInt (p.bytes.length - transportAt p.mem))
    ⟨fun h => ⟨h.1, h.2.1, h.2.2.1, h.2.2.2.1, h.2.2.2.2⟩,
      fun h => ⟨h.udp, h.header, h.fits, h.totLen, h.udpLen⟩⟩

section Branch
variable (env : Env) (host : Host) (F : Functors Globals) (p : Packet)

/-- The RTP branch. -/
def branchRtp (buff : Mem) (offset : ℤ) : Op (Option ℤ) := do
  if isInward host p then
    inboundRtp env F p.id buff p.bytes.length offset (htons (p.mem.load16 (transportAt p.mem)))
    return none
  else outboundRtp env F p.id buff p.bytes.length offset

/-- The RTP branch up to its common end. -/
def prepareRtp (buff : Mem) : Op (Mem × ℤ) := do
  if isInward host p then
    prepareInbound env F p.id buff p.bytes.length (htons (p.mem.load16 (transportAt p.mem)))
  else
    setGlobals fun g => { g with rtpSrc := saddr buff }
    prepareOutbound env F p.id buff p.bytes.length

/-- The header of a datagram comes through the RTP branch, which is entered behind the SIP
branch: the SIP branch has forwarded the packet and there are no options, or it has not and
what is prepared has the right UDP length and options that add up to a multiple of 65535. -/
def plainBehind (r : Mem × ℤ) (v : Process) : Prop :=
  if r.2 = transportAt p.mem then ihl p.mem = 5
  else ∀ c u, (prepareRtp env host F p r.1).run v = .ok (c, u) → FramedIn c.1 c.2

/-- The header of a datagram comes through the branch that sends it. A media packet must have no
options. The options of a SIP packet must add up to a multiple of 65535; if the RTP branch
sends it as well, that branch decides on its own datagram. -/
def plainHeader (w w' : Process) (d : Datagram) : Prop :=
  if IsSip w.ext.sipPorts p then ∀ r v,
    (handleSip env host F p.id p.mem p.bytes.length (isInward host p)).run (enterSip w p) =
      .ok (r, v) →
    (SendsWhole p.id w v d → optionSum p.mem % 65535 = 0) ∧
      (SendsWhole p.id v w' d → plainBehind env host F p r v)
  else ihl p.mem = 5

end Branch

section Packet
variable {env : Env} {host : Host} {w w' u v : Process} {p : Packet} {n : ℕ} {d : Datagram}

theorem processPacket_branchRtp {F : Functors Globals} (hm : IsMedia w.ext p) :
    (processPacket env host F p).run w =
      (branchRtp env host F p p.mem (transportAt p.mem)).run (enterRtp w p) := by
  rw [processPacket_media hm, branchRtp, isInward]
  by_cases hin : IsInward host p
  · rw [if_pos hin, show host.addresses.contains (saddr p.mem) = false from hin]
    rfl
  · rw [if_neg hin, show host.addresses.contains (saddr p.mem) = true from Bool.of_not_eq_false hin]
    rfl

theorem afterSip_eq (env : Env) (host : Host) (F : Functors Globals) (p : Packet) (b : Mem × ℤ) :
    afterSip env host F p b = (do
      if (← get).ext.isRtp then branchRtp env host F p b.1 b.2 else return none) := rfl

/-- The RTP branch hands over what it has prepared, or drops the packet. -/
theorem branchRtp_posts {buff : Mem} {offset : ℤ} {r : Option ℤ} (hn : (28 : ℤ) ≤ p.bytes.length)
    (hnumber : NoneQueued p.id u)
    (h : (branchRtp env host (functors env host n) p buff offset).run u = .ok (r, w')) :
    w'.log = u.log ∨ ∃ c v port addr ttl,
      (prepareRtp env host (functors env host n) p buff).run u = .ok (c, v) ∧ KeepsHeaders buff c ∧
        Posts env p.id (readdress port addr ttl c.1 c.2 offset) c.2 u w' := by
  rw [branchRtp] at h
  split_ifs at h with hin
  · right
    rcases run_bind_eq_ok h with ⟨_, v', hbranch, hend⟩
    cases hend
    rcases run_bind_eq_ok hbranch with ⟨c, v, hprepare, hdeliver⟩
    obtain ⟨-, events, hlog, hevents⟩ := prepareInbound_spares n _ _ _ hprepare hnumber
    rcases deliverInbound_posts hlog hevents hdeliver with ⟨port, addr, ttl, hposts⟩
    refine ⟨c, v, port, addr, ttl, ?_, prepareInbound_headers hn hprepare, hposts⟩
    rw [prepareRtp, if_pos hin]
    exact hprepare
  · rw [outboundRtp, run_bind_ok (setGlobals_run _ _), run_get_bind] at h
    dsimp only at h
    split_ifs at h
    · cases h
      exact .inl rfl
    right
    rcases run_bind_eq_ok h with ⟨c, v, hprepare, h⟩
    obtain ⟨-, events, hlog, hevents⟩ := prepareOutbound_spares n _ _ hprepare hnumber
    rcases run_bind_eq_ok h with ⟨_, v', hdeliver, hend⟩
    cases hend
    rcases deliverOutbound_posts (w := u) hlog hevents hdeliver with ⟨port, addr, ttl, hposts⟩
    refine ⟨c, v, port, addr, ttl, ?_, prepareOutbound_headers hn hprepare, hposts⟩
    rw [prepareRtp, if_neg hin, run_bind_ok (setGlobals_run _ _)]
    exact hprepare

/-- With the offset of the UDP header, the datagram of the RTP branch is consistent exactly if
the header has no options. -/
theorem branchRtp_consistent_iff {buff : Mem} {r : Option ℤ} (hihl : 5 ≤ ihl buff)
    (hn : (28 : ℤ) ≤ p.bytes.length) (hnumber : NoneQueued p.id u) (hd : SendsWhole p.id u w' d)
    (h : (branchRtp env host (functors env host n) p buff (transportAt buff)).run u = .ok (r, w')) :
    SelfConsistent d.bytes ↔ ihl buff = 5 := by
  rcases branchRtp_posts hn hnumber h with hlog | ⟨c, v, port, addr, ttl, -, hc, hposts⟩
  · exact absurd hd (not_sendsWhole_of_log hlog)
  · have hsame : ihl c.1 = ihl buff := ihl_congr (hc.1 0 le_rfl (by decide))
    rw [hposts.consistent_iff hd, transportAt_congr hsame.symm,
      readdress_consistent_iff (by rw [hsame]; exact hihl) port addr ttl hc.2, hsame]

/-- With the offset behind the UDP header, it is consistent exactly if what is prepared is. -/
theorem branchRtp_behind_iff {buff : Mem} {r : Option ℤ} (hihl : 5 ≤ ihl buff)
    (hn : (28 : ℤ) ≤ p.bytes.length) (hnumber : NoneQueued p.id u) (hd : SendsWhole p.id u w' d)
    (h : (branchRtp env host (functors env host n) p buff (transportAt buff + 8)).run u = .ok (r, w')) :
    SelfConsistent d.bytes ↔ ∀ c v,
      (prepareRtp env host (functors env host n) p buff).run u = .ok (c, v) → FramedIn c.1 c.2 := by
  rcases branchRtp_posts hn hnumber h with hlog | ⟨c, v, port, addr, ttl, hprepare, hc, hposts⟩
  · exact absurd hd (not_sendsWhole_of_log hlog)
  · have hsame : ihl c.1 = ihl buff := ihl_congr (hc.1 0 le_rfl (by decide))
    rw [hposts.consistent_iff hd, transportAt_congr hsame.symm,
      readdress_behind_iff (by rw [hsame]; exact hihl) port addr ttl]
    refine ⟨fun hframed c' v' hrun => ?_, fun hframed => hframed c v hprepare⟩
    cases hprepare.symm.trans hrun
    exact hframed

variable (hp : HasLengths p) (hnumber : NoneQueued p.id w)
include hp hnumber

/-- The SIP branch hands the packet over, or leaves it as it came and the offset behind the UDP
header. -/
theorem handleSip_posts {r : Mem × ℤ}
    (h : (handleSip env host (functors env host n) p.id p.mem p.bytes.length (isInward host p)).run
      (enterSip w p) = .ok (r, v)) : NoneQueued p.id v ∧ ihl r.1 = ihl p.mem ∧
      ((r.2 = transportAt p.mem ∧ ∃ port addr ttl,
          Posts env p.id (addressSip port addr ttl p.mem) p.bytes.length w v) ∨
        (r.2 = transportAt p.mem + 8 ∧ ∃ events, v.log = events ++ w.log ∧
          ∀ e ∈ events, ¬IsOf p.id e)) := by
  rw [handleSip_eq, if_neg (not_lt.mpr hp.fits)] at h
  rcases run_bind_eq_ok h with ⟨b, v', hparse, h⟩
  have hcapture : v.log = v'.log ∧ v.ext.queue = v'.ext.queue ∧ r = b := by
    rw [captureSipHeader, run_bind_ok (setGlobals_run _ _)] at h
    cases h
    refine ⟨rfl, ?_, rfl⟩
    dsimp only
    split_ifs
    · rfl
    · rfl
  rcases hcapture with ⟨hlogv, hqueue, rfl⟩
  rcases run_bind_eq_ok hparse with ⟨status, u, hsip, hrest⟩
  obtain ⟨hnone, events, hlog, hevents⟩ :=
    spares_of_steps (parseSip_spares (functors_spare n) _ _ _ _ _ hsip) hnumber
  have hkept : v'.ext.queue = u.ext.queue → NoneQueued p.id v := fun hu q hq =>
    hnone q (by rw [← hu, ← hqueue]; exact hq)
  rw [run_get_bind] at hrest
  split_ifs at hrest
  · rcases run_bind_eq_ok hrest with ⟨buff, v'', hforward, hend⟩
    cases hend
    rcases forwardSip_posts (w := w) hlog hevents hp.header hforward with
      ⟨hu, hihl, port, addr, ttl, hposts⟩
    exact ⟨hkept hu, hihl, .inl ⟨add_sub_cancel_right _ _, port, addr, ttl, hposts.congr hlogv⟩⟩
  · cases hrest
    exact ⟨hkept rfl, rfl, .inr ⟨rfl, events, hlogv.trans hlog, hevents⟩⟩

section Sip
variable {b : Mem × ℤ} {r : Option ℤ}
  (hsip : (handleSip env host (functors env host n) p.id p.mem p.bytes.length (isInward host p)).run
    (enterSip w p) = .ok (b, v))
include hsip

/-- The datagram of the SIP branch. -/
theorem handleSip_consistent_iff (hd : SendsWhole p.id w v d) :
    SelfConsistent d.bytes ↔ optionSum p.mem % 65535 = 0 := by
  rcases handleSip_posts hp hnumber hsip with ⟨-, -, ⟨-, port, addr, ttl, hposts⟩ | ⟨-, events, hlog, hevents⟩⟩
  · rw [hposts.consistent_iff hd]
    exact addressSip_consistent_iff hp.header port addr ttl hp.fits hp.totLen hp.udpLen
  · exact absurd hd (not_sendsWhole hlog hevents)

variable (hafter : (afterSip env host (functors env host n) p b).run v = .ok (r, w'))
include hafter

/-- The datagram of the RTP branch behind it. -/
theorem afterSip_consistent_iff (hd : SendsWhole p.id v w' d) :
    SelfConsistent d.bytes ↔ plainBehind env host (functors env host n) p b v := by
  rcases handleSip_posts hp hnumber hsip with ⟨hnone, hihl, hoffset⟩
  rw [afterSip_eq, run_get_bind] at hafter
  split_ifs at hafter
  swap
  · cases hafter
    exact absurd hd (not_sendsWhole_of_log rfl)
  have ht : transportAt b.1 = transportAt p.mem := transportAt_congr hihl
  have hheader : 5 ≤ ihl b.1 := by
    rw [hihl]
    exact hp.header
  rw [plainBehind]
  rcases hoffset with ⟨hb, -⟩ | ⟨hb, -⟩
  · rw [hb, ← ht] at hafter
    rw [if_pos hb, ← hihl]
    exact branchRtp_consistent_iff hheader hp.length hnone hd hafter
  · rw [hb, ← ht] at hafter
    rw [if_neg (by omega)]
    exact branchRtp_behind_iff hheader hp.length hnone hd hafter

/-- A datagram is sent by the SIP branch or by the RTP branch behind it. -/
theorem sendsWhole_of_sip (hd : SendsWhole p.id w w' d) :
    SendsWhole p.id w v d ∨ SendsWhole p.id v w' d := by
  rcases handleSip_posts hp hnumber hsip with ⟨hnone, hihl, hoffset⟩
  have hold : ∃ old, v.log = old ++ w.log := by
    rcases hoffset with ⟨-, port, addr, ttl, hposts⟩ | ⟨-, events, hlog, -⟩
    · rcases hposts.log (d := d) with ⟨new, hlog, -⟩
      exact ⟨new, hlog⟩
    · exact ⟨events, hlog⟩
  rcases hold with ⟨old, hold⟩
  rw [afterSip_eq, run_get_bind] at hafter
  split_ifs at hafter
  swap
  · cases hafter
    exact .inl hd
  rcases branchRtp_posts hp.length hnone hafter with hlog | ⟨c, v', port, addr, ttl, -, -, hposts⟩
  · rcases hd with ⟨later, earlier, hsent⟩
    exact .inl ⟨later, earlier, hlog ▸ hsent⟩
  · rcases hposts.log (d := d) with ⟨new, hnew, hfirst⟩
    exact hd.split hold hnew hfirst

end Sip

variable (hd : SendsWhole p.id w w' d)
include hd

/-- Every datagram that is sent for a packet as a whole agrees with its headers exactly if the
header of the packet is a plain one for the branch that sends it. -/
theorem processPacket_consistent_iff {r : Option ℤ}
    (h : (processPacket env host (functors env host n) p).run w = .ok (r, w')) :
    SelfConsistent d.bytes ↔ plainHeader env host (functors env host n) p w w' d := by
  unfold plainHeader
  by_cases hs : IsSip w.ext.sipPorts p
  · rw [if_pos hs]
    rw [processPacket_sip hs] at h
    rcases run_bind_eq_ok h with ⟨b, v, hsip, hafter⟩
    have hfirst := handleSip_consistent_iff hp hnumber (d := d) hsip
    have hsecond := afterSip_consistent_iff hp hnumber (d := d) hsip hafter
    have hphase := sendsWhole_of_sip hp hnumber hsip hafter hd
    constructor
    · intro hc r v hrun
      cases hsip.symm.trans hrun
      exact ⟨fun hd' => (hfirst hd').mp hc, fun hd' => (hsecond hd').mp hc⟩
    · intro hplain
      rcases hplain b v hsip with ⟨hopt, hbehind⟩
      exact hphase.elim (fun hd' => (hfirst hd').mpr (hopt hd')) fun hd' => (hsecond hd').mpr (hbehind hd')
  rw [if_neg hs]
  by_cases hm : IsMedia w.ext p
  · rw [processPacket_branchRtp hm] at h
    have hnone : NoneQueued p.id (enterRtp w p) := hnumber
    exact branchRtp_consistent_iff hp.header hp.length hnone hd h
  · rcases dropPacket_run p w with ⟨_, _, _, _, -, hdrop⟩
    cases h.symm.trans ((processPacket_other hs hm).trans hdrop)
    exact absurd hd (not_sendsWhole_of_log rfl)

end Packet

/-! ## Two packets -/

/-- The datagram the log ends with, if it was sent as a whole. -/
def lastWhole : List Event → Option (ℕ × Datagram)
  | .rawMessage id d :: .handedOver id' :: _ => if id = id' then some (id, d) else none
  | _ => none

theorem sendsWhole_of_last {w w' : Process} {id : ℕ} {d : Datagram} (hw : w.log = [])
    (h : lastWhole w'.log = some (id, d)) : SendsWhole id w w' d := by
  unfold lastWhole at h
  split at h
  · next rest hlog =>
    split_ifs at h with hid
    cases h
    subst hid
    exact ⟨[], rest, by simp [hlog, hw]⟩
  · cases h

/-- A packet has been sent as a whole, as a datagram with a property. -/
theorem whole_of_check {w : Process} {p : Packet} {good : Datagram → Bool} (hw : w.log = [])
    (h : endsIn (processPacket (Env.constant 0) localHost (functors (Env.constant 0) localHost 1) p) w
      (fun w' => (lastWhole w'.log).any fun s => s.1 = p.id && good s.2) = true) : ∃ r w' d,
    (processPacket (Env.constant 0) localHost (functors (Env.constant 0) localHost 1) p).run w =
      .ok (r, w') ∧ SendsWhole p.id w w' d ∧ good d = true := by
  rcases endsIn_run h with ⟨r, w', hrun, hlast⟩
  rw [Option.any_eq_true] at hlast
  rcases hlast with ⟨⟨id, d⟩, hsome, hgood⟩
  rw [Bool.and_eq_true, decide_eq_true_eq] at hgood
  rcases hgood with ⟨rfl, hgood⟩
  exact ⟨r, w', d, hrun, sendsWhole_of_last hw hsome, hgood⟩

/-- A packet without options is sent as a datagram that agrees with its headers. -/
theorem framed_consistent : HasLengths (framedPacket [1, 2, 3]) ∧ ∃ r w' d,
    (processPacket (Env.constant 0) localHost (functors (Env.constant 0) localHost 1)
      (framedPacket [1, 2, 3])).run (plainCall 2) = .ok (r, w') ∧
    SendsWhole (framedPacket [1, 2, 3]).id (plainCall 2) w' d ∧ SelfConsistent d.bytes := by
  have hp : HasLengths (framedPacket [1, 2, 3]) := by decide +kernel
  obtain ⟨r, w', d, hrun, hd, -⟩ := @whole_of_check (plainCall 2) (framedPacket [1, 2, 3])
    (fun _ => true) rfl (by decide +kernel)
  have hsip : ¬IsSip (plainCall 2).ext.sipPorts (framedPacket [1, 2, 3]) := by decide +kernel
  have hnumber : NoneQueued (framedPacket [1, 2, 3]).id (plainCall 2) := by
    intro q hq
    cases hq
  refine ⟨hp, r, w', d, hrun, hd, ?_⟩
  refine (processPacket_consistent_iff hp hnumber hd hrun).mpr ?_
  rw [plainHeader, if_neg hsip]
  decide +kernel

/-- A packet with the router alert option. -/
def alertPacket : Packet where
  id := 1
  bytes := [0x46, 0, 0, 32, 0, 0, 0, 0, 64, 17, 0, 0, 10, 0, 0, 2, 10, 0, 0, 1, 0x94, 4, 0, 0] ++
    le16 (htons 5000) ++ le16 (htons 5000) ++ [0, 8, 0, 0]
  rest _ := 0

/-- It is sent with a UDP length that is four bytes too long. -/
theorem alertPacket_not_consistent : HasLengths alertPacket ∧ ∃ r w' d,
    (processPacket (Env.constant 0) localHost (functors (Env.constant 0) localHost 1)
      alertPacket).run (plainCall 2) = .ok (r, w') ∧
    SendsWhole alertPacket.id (plainCall 2) w' d ∧ ¬SelfConsistent d.bytes := by
  obtain ⟨r, w', d, hrun, hd, hbad⟩ := @whole_of_check (plainCall 2) alertPacket
    (fun d => !decide (SelfConsistent d.bytes)) rfl (by decide +kernel)
  exact ⟨by decide +kernel, r, w', d, hrun, hd, by simpa using hbad⟩

end Sqrkal.Discovery
