import Sqrkal.Discovery.Ledger
import Sqrkal.Discovery.Oversize
import Sqrkal.Foundation.Columns

/-! # The rows of `sizes.txt`

The length of an outbound packet before its conversion is pushed only if there is one, the
length with which it leaves always. The BYE pairs the two vectors entry by entry, so the rows
hold the lengths of one packet each as long as no packet has left unconverted before a
converted one.
-/

namespace Sqrkal.Discovery
open Foundation Message Library Relation

/-! ## The length of a packet -/

section Length
variable {env : Env} {packet : ℕ} {buff buff' : Mem} {bytesRead offset n sent : ℤ} {w w' : Process}

/-- The conversion adds the header of SRPP and the pad count, and sends all of the payload. -/
theorem convertOutboundOp_grows
    (h : (convertOutboundOp env packet buff bytesRead).run w = .ok ((buff', n), w')) :
    bytesRead + 80 ≤ n := by
  obtain ⟨rtp, data, msg, l, ssrc, key, srppBuff, filler, hdata, hmsg, hplace, -⟩ :=
    convertOutboundOp_ok h
  rcases placeOutbound_ok hplace with ⟨wire, -, -, rfl⟩
  have hlength := outboundPayload_ok hdata
  rcases rtpToSrppOp_ok hmsg with ⟨extra, l₁, m, padding, count, draw, -, -, hm, rfl⟩
  have hsize : srppSize (sealSrpp (withPadding m padding count) l.session.encryptionKey draw) =
      92 + data.length + padding.length := by
    change (80 : ℤ) + (m.encryptedPart.originalPayload.map _).length + (padding.map _).length + 12 = _
    rw [List.length_map, List.length_map, hm]
    omega
  rw [hsize, hlength, payloadSize]
  split_ifs <;> omega

theorem convertAndDeliver_grows
    (h : (convertAndDeliver env packet buff bytesRead offset).run w = .ok (sent, w'))
    (happly : w.ext.applySrpp = true) : bytesRead + 80 ≤ sent := by
  rw [convertAndDeliver, run_get_bind, if_pos happly] at h
  rcases run_bind_eq_ok h with ⟨⟨buff', n⟩, u, hconvert, h⟩
  rcases run_bind_eq_ok h with ⟨_, v, -, hreturn⟩
  cases hreturn
  exact convertOutboundOp_grows hconvert

end Length

/-! ## The account of a run -/

/-- An outbound packet that has been delivered: its length before and behind the conversion, and
whether it was converted. -/
structure Delivery where
  packet : ℕ
  before : ℤ
  after : ℤ
  converted : Bool
  /-- The two vectors were of one length when it came. -/
  level : Bool

def Delivery.of (w : Process) (packet : ℕ) (bytesRead sent : ℤ) : Delivery where
  packet := packet
  before := bytesRead
  after := sent
  converted := w.ext.applySrpp
  level := w.ext.inputPacketSizes.length = w.ext.outputPacketSizes.length

/-- The rows that a BYE has written, with the deliveries since the BYE before it. -/
structure Sheet where
  deliveries : List Delivery
  rows : List (ℤ × Option ℤ)

def pushedInputs (deliveries : List Delivery) : List ℤ :=
  (picked Delivery.converted deliveries).map fun q => q.1.before

def pushedOutputs (deliveries : List Delivery) : List ℤ := deliveries.map Delivery.after

/-- Row `i` holds the lengths of the delivery that has pushed the entry `i` of both vectors. -/
def Sheet.Belongs (s : Sheet) (i : ℕ) : Prop :=
  ∃ d, IsRow Delivery.converted s.deliveries i d ∧ s.rows[i]? = some (d.before, some d.after)

/-- The deliveries since the last BYE, and the sheets of all of them, the last one first. -/
structure Account where
  deliveries : List Delivery := []
  sheets : List Sheet := []

/-- The account of a run from `w₀`. -/
inductive Logged (env : Env) (w₀ : Process) : Account → Process → Prop
  | start : Logged env w₀ {} w₀
  | quiet {a : Account} {w w' : Process} (h : Logged env w₀ a w)
      (hsame : w'.ext.ledger = w.ext.ledger) : Logged env w₀ a w'
  | ports {a : Account} {w : Process} (h : Logged env w₀ a w) : Logged env w₀ a (portsNoted w)
  | outbound {a : Account} {w w' : Process} {packet : ℕ} {buff : Mem} {bytesRead offset sent : ℤ}
      (h : Logged env w₀ a w)
      (hrun : (convertAndDeliver env packet buff bytesRead offset).run w = .ok (sent, w')) :
      Logged env w₀ { a with deliveries := a.deliveries ++ [.of w packet bytesRead sent] } w'
  | bye {a : Account} {w : Process} (h : Logged env w₀ a w) :
      Logged env w₀ { sheets := ⟨a.deliveries, (collected w).ext.sizesTxt⟩ :: a.sheets } (collected w)

section Accounts
variable {env : Env} {host : Host} {w₀ w w' : Process} {a : Account}

theorem Logged.step (h : Logged env w₀ a w) (hstep : LedgerStep env w w') :
    ∃ a', Logged env w₀ a' w' := by
  cases hstep with
  | quiet hsame => exact ⟨_, h.quiet hsame⟩
  | ports => exact ⟨_, h.ports⟩
  | outbound packet buff bytesRead offset hrun => exact ⟨_, h.outbound hrun⟩
  | bye => exact ⟨_, h.bye⟩

/-- Every run has an account. -/
theorem run_logged (h : ReflTransGen (Step env host) w₀ w) : ∃ a, Logged env w₀ a w := by
  have hsteps := run_ledger h
  clear h
  induction hsteps with
  | refl => exact ⟨_, .start⟩
  | tail _ hstep ih =>
    rcases ih with ⟨a, ha⟩
    exact ha.step hstep

end Accounts

/-! ## The vectors -/

/-- What is known of the deliveries between two BYEs. -/
structure Faithful (deliveries : List Delivery) : Prop where
  level : ∀ k d, deliveries[k]? = some d →
    d.level = decide ((deliveries.take k).countP Delivery.converted = k)
  grows : ∀ d ∈ deliveries, d.converted = true → d.before + 80 ≤ d.after

/-- The vectors and the file are what the account says. -/
structure Account.Fits (a : Account) (w : Process) : Prop where
  faithful : Faithful a.deliveries
  inputs : w.ext.inputPacketSizes = pushedInputs a.deliveries
  outputs : w.ext.outputPacketSizes = pushedOutputs a.deliveries
  sizesTxt : w.ext.sizesTxt = (a.sheets.head?.map Sheet.rows).getD []
  sheets : ∀ s ∈ a.sheets, Faithful s.deliveries ∧
    s.rows = sizeRows (pushedInputs s.deliveries) (pushedOutputs s.deliveries)

section Vectors
variable {env : Env} {host : Host} {w₀ w w' : Process} {a : Account} {deliveries : List Delivery}

@[simp] theorem length_pushedInputs (deliveries : List Delivery) :
    (pushedInputs deliveries).length = deliveries.countP Delivery.converted := by
  simp [pushedInputs]

@[simp] theorem length_pushedOutputs (deliveries : List Delivery) :
    (pushedOutputs deliveries).length = deliveries.length := by
  simp [pushedOutputs]

theorem Faithful.concat (h : Faithful deliveries) {d : Delivery}
    (hlevel : d.level = decide (deliveries.countP Delivery.converted = deliveries.length))
    (hgrows : d.converted = true → d.before + 80 ≤ d.after) : Faithful (deliveries ++ [d]) := by
  constructor
  · intro k e he
    rcases lt_trichotomy k deliveries.length with hk | rfl | hk
    · rw [List.getElem?_append_left hk] at he
      rw [List.take_append_of_le_length hk.le]
      exact h.level k e he
    · rw [List.getElem?_concat_length] at he
      cases he
      rw [List.take_left, hlevel]
    · rw [List.getElem?_eq_none (by simpa using hk)] at he
      cases he
  · intro e he
    rcases List.mem_append.mp he with he | he
    · exact h.grows e he
    · rw [List.mem_singleton] at he
      subst he
      exact hgrows

theorem Logged.fits (h : Logged env w₀ a w) (h₀ : Account.Fits {} w₀) : a.Fits w := by
  induction h with
  | start => exact h₀
  | quiet _ hsame ih =>
    have hin := congrArg Ledger.inputPacketSizes hsame
    have hout := congrArg Ledger.outputPacketSizes hsame
    have htxt := congrArg Ledger.sizesTxt hsame
    exact ⟨ih.faithful, hin.trans ih.inputs, hout.trans ih.outputs, htxt.trans ih.sizesTxt, ih.sheets⟩
  | ports _ ih => exact ⟨ih.faithful, ih.inputs, ih.outputs, ih.sizesTxt, ih.sheets⟩
  | @outbound a w w' packet buff bytesRead offset sent _ hrun ih =>
    have hledger := convertAndDeliver_ledger hrun
    have hin := congrArg Ledger.inputPacketSizes hledger
    have hout := congrArg Ledger.outputPacketSizes hledger
    have htxt := congrArg Ledger.sizesTxt hledger
    refine ⟨ih.faithful.concat ?_ (convertAndDeliver_grows hrun), ?_, ?_, htxt.trans ih.sizesTxt, ih.sheets⟩
    · simp [Delivery.of, ih.inputs, ih.outputs]
    · refine hin.trans ?_
      simp only [ih.inputs, pushedInputs, picked_concat, List.map_append, Delivery.of]
      split_ifs <;> rfl
    · refine hout.trans ?_
      simp [ih.outputs, pushedOutputs, Delivery.of]
  | @bye a w _ ih =>
    refine ⟨⟨by simp, by simp⟩, rfl, rfl, rfl, fun s hs => ?_⟩
    rcases List.mem_cons.mp hs with rfl | hs
    · exact ⟨ih.faithful, by rw [← ih.inputs, ← ih.outputs]; rfl⟩
    · exact ih.sheets s hs

theorem Begins.fits {option : ℤ} (h : Begins env option w) : Account.Fits {} w := by
  rcases h.globals with ⟨-, ttl, hext⟩
  refine ⟨⟨by simp, by simp⟩, ?_, ?_, ?_, by simp⟩
  all_goals
    rw [hext]
    rfl

end Vectors

/-! ## The rows -/

section Rows
variable {env : Env} {host : Host} {w₀ w : Process} {s : Sheet}

theorem getElem?_sizeRows (input output : List ℤ) (i : ℕ) :
    (sizeRows input output)[i]? = input[i]?.map fun n => (n, output[i]?) := by
  simp [sizeRows]

/-- A row belongs together if one delivery has pushed both of its entries. -/
theorem belongs_iff (hrows : s.rows = sizeRows (pushedInputs s.deliveries) (pushedOutputs s.deliveries))
    (i : ℕ) : s.Belongs i ↔ ∃ d, IsRow Delivery.converted s.deliveries i d := by
  constructor
  · rintro ⟨d, hd, -⟩
    exact ⟨d, hd⟩
  · rintro ⟨d, hd⟩
    refine ⟨d, hd, ?_⟩
    rw [hrows, getElem?_sizeRows, pushedInputs, pushedOutputs, List.getElem?_map, List.getElem?_map, hd.1,
      hd.2]
    rfl

/-- In every run, every row of every sheet is inside both vectors, and the rows of a sheet belong
together exactly if every packet that was converted found the vectors of one length. -/
theorem rows_belong_iff {option : ℤ} (h₀ : Begins env option w₀)
    (hrun : ReflTransGen (Step env host) w₀ w) :
    (∃ a, Logged env w₀ a w) ∧ ∀ a, Logged env w₀ a w →
      w.ext.sizesTxt = (a.sheets.head?.map Sheet.rows).getD [] ∧
      ∀ s ∈ a.sheets,
        s.rows = sizeRows (pushedInputs s.deliveries) (pushedOutputs s.deliveries) ∧
        (∀ i < s.rows.length, i < (pushedInputs s.deliveries).length ∧
          i < (pushedOutputs s.deliveries).length) ∧
        ((∀ i < s.rows.length, s.Belongs i) ↔
          ∀ d ∈ s.deliveries, d.converted = true → d.level = true) := by
  refine ⟨run_logged hrun, fun a ha => ?_⟩
  have hfits := ha.fits h₀.fits
  refine ⟨hfits.sizesTxt, fun s hs => ?_⟩
  rcases hfits.sheets s hs with ⟨hfaithful, hrows⟩
  have hlength : s.rows.length = s.deliveries.countP Delivery.converted := by
    rw [hrows, sizeRows, List.length_mapIdx, length_pushedInputs]
  refine ⟨hrows, fun i hi => ?_, ?_⟩
  · rw [hlength] at hi
    rw [length_pushedInputs, length_pushedOutputs]
    exact ⟨hi, hi.trans_le List.countP_le_length⟩
  · simp only [belongs_iff hrows]
    rw [hlength, ← length_picked, rows_match_iff]
    constructor
    · intro h d hd hconverted
      obtain ⟨k, hk⟩ := List.mem_iff_getElem?.mp hd
      rw [hfaithful.level k d hk]
      exact decide_eq_true (h k d hk hconverted)
    · intro h k d hk hconverted
      have hlevel := h d (List.mem_of_getElem? hk) hconverted
      rw [hfaithful.level k d hk] at hlevel
      exact of_decide_eq_true hlevel

end Rows

/-! ## Two runs -/

/-- A call, a HELLO of the peer, the HELLOACK, and a BYE that is answered, with further packets
before and behind the HELLOACK. -/
def calledQueue (before behind : List (Option Packet)) : List (Option Packet) :=
  [some (receivedSip 1 "INVITE sip:a@b Content-Type: application/sdp m=audio 4000 RTP/AVP 0 c=IN IP4 10.0.0.2 "),
    some (udpPacket 2 5000 (signalBytes 12 (helloOptions 7 1464))), none] ++ before ++
  [some (udpPacket 4 5000 (signalBytes 13 (helloAckOptions 1464)))] ++ behind ++
  [some (receivedSip 6 "BYE sip:a"), some (udpPacket 7 5000 (signalBytes 23 []))]

theorem last_sheet {sheets : List Sheet} {row : ℤ × Option ℤ} {rows : List (ℤ × Option ℤ)}
    (h : (sheets.head?.map Sheet.rows).getD [] = row :: rows) : ∃ s ∈ sheets, s.rows = row :: rows := by
  cases sheets with
  | nil => cases h
  | cons s sheets => exact ⟨s, List.mem_cons_self, h⟩

/-- Without a packet before the HELLOACK, the row holds the lengths of the one that follows. -/
theorem rows_belong_iff_called : ∃ w₀ w, Begins (Env.constant 0) 0 w₀ ∧
    ReflTransGen (Step (Env.constant 0) localHost) w₀ w ∧ w.ext.sizesTxt = [(140, some 221)] ∧
    ∃ a s, Logged (Env.constant 0) w₀ a w ∧ s ∈ a.sheets ∧ s.rows = [(140, some 221)] ∧
      (s.Belongs 0 ↔ ∀ d ∈ s.deliveries, d.converted = true → d.level = true) := by
  have hcheck : endsIn (session (Env.constant 0) localHost 0
      (calledQueue [] [some (spokenPacket (List.replicate 100 7))]) 2 6)
      (atMain (Env.constant 0)) (fun w => w.ext.sizesTxt == [(140, some 221)]) = true := by
    decide +kernel
  rcases endsIn_run hcheck with ⟨_, w, hrun, hw⟩
  rcases session_run hrun with ⟨w₀, h₀, hsteps⟩
  have htxt : w.ext.sizesTxt = [(140, some 221)] := beq_iff_eq.mp hw
  rcases rows_belong_iff h₀ hsteps with ⟨⟨a, ha⟩, hall⟩
  rcases hall a ha with ⟨hlast, hsheets⟩
  rcases last_sheet (hlast.symm.trans htxt) with ⟨s, hs, hrows⟩
  refine ⟨w₀, w, h₀, hsteps, htxt, a, s, ha, hs, hrows, ?_⟩
  have hiff := (hsheets s hs).2.2
  rw [hrows] at hiff
  simpa using hiff

/-- The first packet of a call leaves before the session has started, and the row of the second
one holds its length. -/
theorem row_of_two_packets : ¬∀ (env : Env) (host : Host) (option : ℤ) (w₀ w : Process) (a : Account),
    Begins env option w₀ → ReflTransGen (Step env host) w₀ w → Logged env w₀ a w →
    ∀ s ∈ a.sheets, ∀ i < s.rows.length, s.Belongs i := by
  intro hclaim
  have hcheck : endsIn (session (Env.constant 0) localHost 0
      (calledQueue [some (spokenPacket [1])] [some (spokenPacket (List.replicate 100 7))]) 2 6)
      (atMain (Env.constant 0)) (fun w => w.ext.sizesTxt == [(140, some 41)]) = true := by
    decide +kernel
  rcases endsIn_run hcheck with ⟨_, w, hrun, hw⟩
  rcases session_run hrun with ⟨w₀, h₀, hsteps⟩
  rcases run_logged hsteps with ⟨a, ha⟩
  have hfits := ha.fits h₀.fits
  rcases last_sheet (hfits.sizesTxt.symm.trans (beq_iff_eq.mp hw)) with ⟨s, hs, hrows⟩
  rcases hclaim _ _ _ _ _ _ h₀ hsteps ha s hs 0 (by rw [hrows]; decide) with ⟨d, hd, hrow⟩
  rw [hrows] at hrow
  obtain ⟨hbefore, hafter⟩ : 140 = d.before ∧ 41 = d.after := by simpa using hrow
  have hconverted := (getElem?_picked.mp hd.2).2.1
  have hgrows := (hfits.sheets s hs).1.grows d (List.mem_of_getElem? hd.1) hconverted
  omega

end Sqrkal.Discovery
