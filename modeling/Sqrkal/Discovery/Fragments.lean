import Sqrkal.Discovery.Media
import Sqrkal.Discovery.Run

/-! # Packets sent in two fragments

A receiver puts fragments together by their offsets. The data of a packet comes
out as it went in, apart from the checksum that is switched off in each fragment.
The second fragment has no UDP header, so there the two bytes are payload.
-/

namespace Sqrkal.Discovery
open Foundation Message Library Mem

/-! ## The receiver of fragments -/

/-- The memory that holds a datagram. -/
def datagram (d : List Byte) : Mem := Mem.around (fun _ => 0) d

def ident (d : List Byte) : BitVec 16 := htons ((datagram d).load16 4)

def fragOff (d : List Byte) : BitVec 16 := htons ((datagram d).load16 6)

/-- The flag that announces another fragment. -/
def moreFragments (d : List Byte) : Bool := (fragOff d).getLsbD 13

/-- Where the data of a fragment belongs. -/
def fragmentAt (d : List Byte) : ℕ := 8 * ((fragOff d).extractLsb' 0 13).toNat

/-- The data of a packet from its fragments in order, the first of them expected at an
offset. -/
def reassemble (offset : ℕ) : List (List Byte) → Option (List Byte)
  | [] => none
  | d :: ds =>
    if fragmentAt d ≠ offset then none
    else if moreFragments d then
      (reassemble (offset + (d.length - 20)) ds).map (d.drop 20 ++ ·)
    else if ds = [] then some (d.drop 20) else none

/-- Two datagrams are the fragments of a packet of `n` bytes: one identification, at
most `IP_MTU` bytes each, and the data of the packet without its UDP checksum. -/
structure IsFragmentation (buff : Mem) (n : ℕ) (first second : List Byte) : Prop where
  ident : ident first = ident second
  fits : (first.length : ℤ) ≤ ipMtu ∧ (second.length : ℤ) ≤ ipMtu
  offsets : fragmentAt first = 0 ∧ fragmentAt second = 185 * 8
  more : moreFragments first = true ∧ moreFragments second = false
  data : reassemble 0 [first, second] = some ((buff.store16 26 0).read 20 (n - 20))

theorem datagram_agreesOn (m : Mem) (n : ℕ) : AgreesOn (datagram (m.read 0 n)) m 0 n :=
  write_read_agreesOn _ _ _

theorem ident_read (m : Mem) {n : ℕ} (h : 6 ≤ n) : ident (m.read 0 n) = htons (m.load16 4) := by
  rw [ident, (datagram_agreesOn m n).load16 (by omega) (by omega)]

theorem fragOff_read (m : Mem) {n : ℕ} (h : 8 ≤ n) :
    fragOff (m.read 0 n) = htons (m.load16 6) := by
  rw [fragOff, (datagram_agreesOn m n).load16 (by omega) (by omega)]

theorem read_drop_header (m : Mem) (n : ℕ) : (m.read 0 (20 + n)).drop 20 = m.read 20 n := by
  rw [read_add, List.drop_left' (read_length m 0 20)]
  rfl

/-- Two fragments that follow each other. -/
theorem reassemble_pair {first second : List Byte} (h₁ : fragmentAt first = 0)
    (h₂ : moreFragments first = true) (h₃ : fragmentAt second = first.length - 20)
    (h₄ : moreFragments second = false) :
    reassemble 0 [first, second] = some (first.drop 20 ++ second.drop 20) := by
  simp [reassemble, h₁, h₂, h₃, h₄]

/-! ## The two checksums -/

section Checksums
variable {m : Mem}

/-- The two checksums are all that changes. -/
theorem formChecksums_agreesOn_of {lo hi : ℤ} (hip : hi ≤ 10 ∨ 12 ≤ lo)
    (hudp : hi ≤ transportAt m + 6 ∨ transportAt m + 8 ≤ lo) : AgreesOn (formChecksums m) m lo hi :=
  (store16_agreesOn _ _ _ (by omega)).trans
    ((store16_agreesOn _ _ _ (by omega)).trans (store16_agreesOn _ _ _ (by omega)))

variable (h : ihl m = 5)
include h

theorem transportAt_of_ihl : transportAt m = 20 := by
  rw [transportAt, h]
  rfl

/-- With twenty bytes of IP header, the places of the checksums are known. -/
theorem formChecksums_frame {lo hi : ℤ} (hip : hi ≤ 10 ∨ 12 ≤ lo) (hudp : hi ≤ 26 ∨ 28 ≤ lo) :
    AgreesOn (formChecksums m) m lo hi := by
  have ht := transportAt_of_ihl h
  exact formChecksums_agreesOn_of hip (by omega)

/-- Behind the IP header the checksum of UDP is zero and the rest is as it was. -/
theorem formChecksums_data {hi : ℤ} : AgreesOn (formChecksums m) (m.store16 26 0) 20 hi := by
  simp only [formChecksums, transportAt_of_ihl h]
  apply AgreesOn.write
  exact (store16_agreesOn _ _ _ (by omega)).trans (store16_agreesOn _ _ _ (by omega))

end Checksums

theorem ihl_congr {m m' : Mem} (h : m 0 = m' 0) : ihl m = ihl m' := by rw [ihl, ihl, h]

theorem transportAt_congr {m m' : Mem} (h : ihl m = ihl m') : transportAt m = transportAt m' := by
  rw [transportAt, transportAt, h]

/-! ## The first fragment -/

section First
variable (fragId : ℤ) {buff : Mem} (h : ihl buff = 5)
include h

/-- The header of the first fragment before its checksum. -/
def firstHeader (fragId : ℤ) (buff : Mem) : Mem :=
  setTotLen ((buff.store16 4 (htonsInt (15032 + fragId))).store16 6 (htonsInt 8192)) 1500

theorem ihl_firstHeader : ihl (firstHeader fragId buff) = 5 := by
  rw [← h]
  apply ihl_congr
  simp only [firstHeader, setTotLen, store16]
  rw [write_apply_outside (by omega), write_apply_outside (by omega),
    write_apply_outside (by omega)]

theorem firstFragment_fragOff : (firstFragment fragId buff).load16 6 = htonsInt 8192 := by
  have hag : AgreesOn (formChecksums (firstHeader fragId buff)) (firstHeader fragId buff) 6 8 :=
    formChecksums_frame (ihl_firstHeader fragId h) (by omega) (by omega)
  rw [show firstFragment fragId buff = formChecksums (firstHeader fragId buff) from rfl,
    hag.load16 le_rfl le_rfl, firstHeader, setTotLen, store16,
    load16_write_of_disjoint (by simp), load16_store16]

theorem ihl_firstFragment : ihl (firstFragment fragId buff) = 5 := by
  have hag : AgreesOn (formChecksums (firstHeader fragId buff)) (firstHeader fragId buff) 0 1 :=
    formChecksums_frame (ihl_firstHeader fragId h) (by omega) (by omega)
  rw [← ihl_firstHeader fragId h]
  exact ihl_congr (hag 0 le_rfl (by omega))

theorem firstFragment_data {hi : ℤ} :
    AgreesOn (firstFragment fragId buff) (buff.store16 26 0) 20 hi := by
  have hheader : AgreesOn (firstHeader fragId buff) buff 20 hi :=
    (store16_agreesOn _ _ _ (by omega)).trans
      ((store16_agreesOn _ _ _ (by omega)).trans (store16_agreesOn _ _ _ (by omega)))
  exact (formChecksums_data (ihl_firstHeader fragId h)).trans hheader.write

end First

/-! ## The second fragment -/

section Second
variable (junk : Mem) {buff : Mem} (bytesLeft : ℕ) (h : ihl buff = 5)

/-- The second fragment before its checksum. -/
def secondHeader (junk buff : Mem) (bytesLeft : ℕ) : Mem :=
  setTotLen (((junk.write 0 (buff.read 0 20)).write 20 (buff.read ipMtu bytesLeft)).store16 6
    (htonsInt 185)) (BitVec.ofNat 16 (bytesLeft + 20))

/-- The bytes behind the first fragment follow the header. -/
theorem secondHeader_data (i : ℕ) (hi : i < bytesLeft) :
    secondHeader junk buff bytesLeft (20 + i) = buff (1500 + i) := by
  simp only [secondHeader, setTotLen, store16]
  rw [write_apply_outside (by simp; omega), write_apply_outside (by simp; omega),
    write_apply_inside _ _ _ _ (by simpa using hi), read_getElem]
  rfl

/-- The header is the one of the first fragment, apart from offset and length. -/
theorem secondHeader_agreesOn {lo hi : ℤ} (h2 : hi ≤ 2 ∨ 4 ≤ lo) (h6 : hi ≤ 6 ∨ 8 ≤ lo)
    (h0 : 0 ≤ lo) (h20 : hi ≤ 20) : AgreesOn (secondHeader junk buff bytesLeft) buff lo hi := by
  have hcopy : AgreesOn (junk.write 0 (buff.read 0 20)) buff lo hi :=
    (write_read_agreesOn _ _ _).mono h0 (by simpa using h20)
  exact (store16_agreesOn _ _ _ (by omega)).trans ((store16_agreesOn _ _ _ (by omega)).trans
    ((write_agreesOn (Or.inl h20)).trans hcopy))

include h

theorem ihl_secondHeader : ihl (secondHeader junk buff bytesLeft) = 5 := by
  have hag : AgreesOn (secondHeader junk buff bytesLeft) buff 0 1 := by
    apply secondHeader_agreesOn <;> omega
  rw [← h]
  exact ihl_congr (hag 0 le_rfl (by omega))

theorem secondFragment_ident :
    (secondFragment junk buff bytesLeft).load16 4 = buff.load16 4 := by
  have hag : AgreesOn (formChecksums (secondHeader junk buff bytesLeft))
      (secondHeader junk buff bytesLeft) 4 6 :=
    formChecksums_frame (ihl_secondHeader junk bytesLeft h) (by omega) (by omega)
  have hheader : AgreesOn (secondHeader junk buff bytesLeft) buff 4 6 := by
    apply secondHeader_agreesOn <;> omega
  exact (hag.trans hheader).load16 le_rfl le_rfl

theorem secondFragment_fragOff :
    (secondFragment junk buff bytesLeft).load16 6 = htonsInt 185 := by
  have hag : AgreesOn (formChecksums (secondHeader junk buff bytesLeft))
      (secondHeader junk buff bytesLeft) 6 8 :=
    formChecksums_frame (ihl_secondHeader junk bytesLeft h) (by omega) (by omega)
  rw [show secondFragment junk buff bytesLeft =
      formChecksums (secondHeader junk buff bytesLeft) from rfl,
    hag.load16 le_rfl le_rfl, secondHeader, setTotLen, store16,
    load16_write_of_disjoint (by simp), load16_store16]

/-- Its bytes seven and eight are taken for a checksum. -/
theorem secondFragment_data (i : ℕ) (hi : i < bytesLeft) :
    secondFragment junk buff bytesLeft (20 + i) =
      if i = 6 ∨ i = 7 then 0 else buff (1500 + i) := by
  have hag : AgreesOn (formChecksums (secondHeader junk buff bytesLeft))
      ((secondHeader junk buff bytesLeft).store16 26 0) 20 (20 + i + 1) :=
    formChecksums_data (ihl_secondHeader junk bytesLeft h)
  rw [show secondFragment junk buff bytesLeft =
      formChecksums (secondHeader junk buff bytesLeft) from rfl, hag _ (by omega) (by omega)]
  by_cases hc : i = 6 ∨ i = 7
  · rw [if_pos hc]
    rcases hc with rfl | rfl
    · rfl
    · rfl
  · rw [if_neg hc, store16, write_apply_outside (by simp; omega), secondHeader_data junk _ i hi]

end Second

/-! ## Both together -/

section Pair
variable (env : Env) {buff : Mem} (w : Process) {n : ℕ} (h : ihl buff = 5)
include h

theorem firstFragment_isFirst :
    fragmentAt ((firstFragment w.ext.fragId buff).read 0 1500) = 0 ∧
      moreFragments ((firstFragment w.ext.fragId buff).read 0 1500) = true := by
  rw [fragmentAt, moreFragments, fragOff_read _ (by omega), firstFragment_fragOff _ h]
  decide

theorem tailFragment_isLast (hn : 1500 < n) :
    fragmentAt ((tailFragment env buff w n).read 0 (n - 1480)) = 1480 ∧
      moreFragments ((tailFragment env buff w n).read 0 (n - 1480)) = false := by
  rw [fragmentAt, moreFragments, fragOff_read _ (by omega), tailFragment,
    secondFragment_fragOff _ _ (ihl_firstFragment _ h)]
  decide

theorem fragments_ident (hn : 1500 < n) :
    ident ((firstFragment w.ext.fragId buff).read 0 1500) =
      ident ((tailFragment env buff w n).read 0 (n - 1480)) := by
  rw [ident_read _ (by omega), ident_read _ (by omega), tailFragment,
    secondFragment_ident _ _ (ihl_firstFragment _ h)]

/-- What a receiver puts together from the two fragments. -/
theorem reassemble_fragments (hn : 1500 < n) :
    reassemble 0 [(firstFragment w.ext.fragId buff).read 0 1500,
        (tailFragment env buff w n).read 0 (n - 1480)] =
      some ((buff.store16 26 0).read 20 1480 ++ (tailFragment env buff w n).read 20 (n - 1500)) := by
  rcases firstFragment_isFirst w h with ⟨hat, hmore⟩
  rcases tailFragment_isLast env w h hn with ⟨hat', hmore'⟩
  rw [reassemble_pair hat hmore (by rw [hat', read_length]) hmore',
    show n - 1480 = 20 + (n - 1500) by omega, read_drop_header,
    show 1500 = 20 + 1480 from rfl, read_drop_header,
    (firstFragment_data w.ext.fragId h).read le_rfl le_rfl]

/-- The tail is whole exactly if the two bytes in the place of a checksum are zero. -/
theorem tailFragment_read_iff (hn : 1500 < n) :
    (tailFragment env buff w n).read 20 (n - 1500) = (buff.store16 26 0).read 1500 (n - 1500) ↔
      ∀ a : ℕ, 1506 ≤ a → a < 1508 → a < n → buff a = 0 := by
  have hleft : ((n : ℤ) - ipMtu).toNat = n - 1500 := by
    rw [ipMtu]
    omega
  have hfar (i : ℕ) : (buff.store16 26 0) (1500 + i) = buff (1500 + i) :=
    write_apply_outside (by simp; omega)
  have hfirst (i : ℕ) : firstFragment w.ext.fragId buff (1500 + i) = buff (1500 + i) := by
    have hag : AgreesOn (firstFragment w.ext.fragId buff) (buff.store16 26 0) 20 (1500 + i + 1) :=
      firstFragment_data w.ext.fragId h
    rw [hag _ (by omega) (by omega), hfar]
  have htail (i : ℕ) (hi : i < n - 1500) : tailFragment env buff w n (20 + i) =
      if i = 6 ∨ i = 7 then 0 else buff (1500 + i) := by
    rw [tailFragment, hleft, secondFragment_data _ _ (ihl_firstFragment _ h) i hi, hfirst]
  rw [read_eq_read_iff]
  constructor
  · intro heq a hlo hhi ha
    have hi : a - 1500 < n - 1500 := by omega
    have hbyte := heq (a - 1500) hi
    rw [htail _ hi, if_pos (by omega), hfar,
      show (1500 : ℤ) + (a - 1500 : ℕ) = a by omega] at hbyte
    exact hbyte.symm
  · intro hzero i hi
    rw [htail i hi, hfar]
    by_cases hc : i = 6 ∨ i = 7
    · have hz := hzero (1500 + i) (by omega) (by omega) (by omega)
      rw [if_pos hc, ← hz]
      push_cast
      rfl
    · rw [if_neg hc]

/-- The two datagrams are the fragments of the packet exactly if it is zero there. -/
theorem isFragmentation_iff_zero (hlo : 1500 < n) (hhi : n ≤ 2048) :
    IsFragmentation buff n ((firstFragment w.ext.fragId buff).read 0 1500)
        ((tailFragment env buff w n).read 0 (n - 1480)) ↔
      ∀ a : ℕ, 1506 ≤ a → a < 1508 → a < n → buff a = 0 := by
  have hdata : (buff.store16 26 0).read 20 (n - 20) =
      (buff.store16 26 0).read 20 1480 ++ (buff.store16 26 0).read 1500 (n - 1500) := by
    rw [show n - 20 = 1480 + (n - 1500) by omega, read_add]
    rfl
  rw [← tailFragment_read_iff env w h hlo]
  constructor
  · intro hf
    have hd := hf.data
    rw [reassemble_fragments env w h hlo, hdata, Option.some_inj] at hd
    exact List.append_cancel_left hd
  · intro htail
    have hfirst := firstFragment_isFirst w h
    have hlast := tailFragment_isLast env w h hlo
    exact
      { ident := fragments_ident env w h hlo
        fits := by
          rw [read_length, read_length, ipMtu]
          omega
        offsets := ⟨hfirst.1, hlast.1⟩
        more := ⟨hfirst.2, hlast.2⟩
        data := by rw [reassemble_fragments env w h hlo, hdata, htail] }

/-- `send_fragmented_message` gives the fragments of a packet to the socket exactly if the
packet is zero where the second one is given a checksum. -/
theorem sendFragmentedMessage_preserves_iff (packet : ℕ) (hlo : 1500 < n) (hhi : n ≤ 2048) :
    (sendFragmentedMessage env packet buff n).run w =
      .ok (firstFragment w.ext.fragId buff,
        ⟨w.lib.ticked, { w.ext with fragId := w.ext.fragId + 1 },
          rawEvents packet (tailFragment env buff w n) w.ext.outAddr ((n - 1480 : ℕ) : ℤ) ++
            rawEvents packet (firstFragment w.ext.fragId buff) w.ext.outAddr 1500 ++
            .fragmented packet :: w.log⟩) ∧
    (IsFragmentation buff n ((firstFragment w.ext.fragId buff).read 0 1500)
        ((tailFragment env buff w n).read 0 (n - 1480)) ↔
      ∀ a : ℕ, 1506 ≤ a → a < 1508 → a < n → buff a = 0) := by
  have hsize : (((n : ℤ) - ipMtu).toNat + 20 : ℤ) = ((n - 1480 : ℕ) : ℤ) := by
    rw [ipMtu]
    omega
  have hrun := sendFragmentedMessage_run env packet buff w n
  rw [hsize] at hrun
  exact ⟨hrun, isFragmentation_iff_zero env w h hlo hhi⟩

end Pair

/-- A UDP packet with a header of twenty bytes and ones for data. -/
def onesPacket : Mem := fun a => if a = 0 then 0x45 else if a = 9 then 17 else 1

/-- A process that knows where to send. -/
def toServer : Process :=
  let w := atMain (Env.constant 0)
  { w with ext := { w.ext with outAddr := ⟨0x0200000a, htons 5060⟩ } }

/-- The last byte of a packet of 1507 bytes does not arrive. -/
theorem onesPacket_not_preserved :
    ihl onesPacket = 5 ∧
    ¬IsFragmentation onesPacket 1507 ((firstFragment toServer.ext.fragId onesPacket).read 0 1500)
      ((tailFragment (Env.constant 0) onesPacket toServer (1507 : ℕ)).read 0 (1507 - 1480)) := by
  refine ⟨by decide, ?_⟩
  rw [isFragmentation_iff_zero (Env.constant 0) toServer (by decide) (by decide) (by decide)]
  intro hzero
  have hlast : onesPacket (1506 : ℕ) = 0 := hzero 1506 le_rfl (by decide) (by decide)
  exact absurd hlast (by decide)

theorem sendFragmentedMessage_preserves_iff_ones :
    (sendFragmentedMessage (Env.constant 0) 7 onesPacket (1506 : ℕ)).run toServer =
      .ok (firstFragment toServer.ext.fragId onesPacket,
        ⟨toServer.lib.ticked, { toServer.ext with fragId := toServer.ext.fragId + 1 },
          rawEvents 7 (tailFragment (Env.constant 0) onesPacket toServer (1506 : ℕ))
              toServer.ext.outAddr ((1506 - 1480 : ℕ) : ℤ) ++
            rawEvents 7 (firstFragment toServer.ext.fragId onesPacket) toServer.ext.outAddr 1500 ++
            .fragmented 7 :: toServer.log⟩) ∧
    (IsFragmentation onesPacket 1506 ((firstFragment toServer.ext.fragId onesPacket).read 0 1500)
        ((tailFragment (Env.constant 0) onesPacket toServer (1506 : ℕ)).read 0 (1506 - 1480)) ↔
      ∀ a : ℕ, 1506 ≤ a → a < 1508 → a < 1506 → onesPacket a = 0) :=
  sendFragmentedMessage_preserves_iff _ _ (by decide) 7 (by decide) (by decide)

end Sqrkal.Discovery
