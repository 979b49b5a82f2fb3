import Mathlib.Data.List.Infix
import Mathlib.Tactic.NormNum

/-! # Alarms that wait for an exact count

An alarm counts ticks whether it is on or off, and goes off at the tick that brings the count to
its period, if it is on then. While it stays on, and nothing clears the count, it goes off
within a period exactly if the count was below the period to begin with.
-/

namespace Sqrkal.Foundation

/-- The increment of a signed word, which wraps around. -/
def intSucc (n : ℤ) : ℤ := if n + 1 = 2 ^ 31 then -2 ^ 31 else n + 1

structure Alarm where
  period : ℤ
  count : ℤ := 0
  on : Bool := false

namespace Alarm

inductive Move where
  | tick | start | pause | reset | skip
deriving DecidableEq

/-- The count has come to the period of an alarm that is on. -/
def due (a : Alarm) : Bool := decide (a.count = a.period) && a.on

def counted (a : Alarm) : Alarm := { a with count := intSucc a.count }

def cleared (a : Alarm) : Alarm := { a with count := 0 }

def perform (a : Alarm) : Move → Alarm
  | .tick => if a.counted.due then a.counted.cleared else a.counted
  | .start => { a with on := true }
  | .pause => { a with on := false }
  | .reset => a.cleared
  | .skip => a

def run (a : Alarm) (ms : List Move) : Alarm := ms.foldl perform a

/-- The alarm goes off at one of the ticks. -/
def GoesOff (a : Alarm) (ms : List Move) : Prop :=
  ∃ u, u ++ [.tick] <+: ms ∧ (a.run u).counted.due = true

/-- The alarm is on all the time, and nothing clears its count from outside. -/
structure Undisturbed (a : Alarm) (ms : List Move) : Prop where
  on : ∀ u, u <+: ms → (a.run u).on = true
  noReset : .reset ∉ ms

/-- The count is below the period. -/
def Armed (a : Alarm) : Prop := 0 ≤ a.count ∧ a.count < a.period

instance (a : Alarm) : Decidable a.Armed := inferInstanceAs (Decidable (_ ∧ _))

/-- The values of the fields of a signed word. -/
structure InRange (a : Alarm) : Prop where
  period : 0 < a.period ∧ a.period < 2 ^ 31
  count : -2 ^ 31 ≤ a.count ∧ a.count < 2 ^ 31

/-- Every start that switches the alarm on finds it armed. -/
def StartsArmed (a : Alarm) (ms : List Move) : Prop :=
  ∀ u, u ++ [.start] <+: ms → (a.run u).on = false → (a.run u).Armed

section Runs
variable {a : Alarm} {ms : List Move}

theorem run_append (a : Alarm) (u v : List Move) : a.run (u ++ v) = (a.run u).run v :=
  List.foldl_append

/-- Counting leaves the period and the switch. -/
theorem due_counted (h : a.on = true) : a.counted.due = true ↔ a.counted.count = a.period := by
  change (decide (a.counted.count = a.period) && a.on) = true ↔ _
  rw [h, Bool.and_true, decide_eq_true_iff]

theorem perform_period (a : Alarm) (m : Move) : (a.perform m).period = a.period := by
  cases m with
  | tick =>
    simp only [perform]
    split_ifs <;> rfl
  | start => rfl
  | pause => rfl
  | reset => rfl
  | skip => rfl

theorem intSucc_range {n : ℤ} (h : -2 ^ 31 ≤ n ∧ n < 2 ^ 31) :
    -2 ^ 31 ≤ intSucc n ∧ intSucc n < 2 ^ 31 := by
  unfold intSucc
  split_ifs <;> omega

theorem InRange.perform (h : InRange a) (m : Move) : InRange (a.perform m) := by
  refine ⟨by rw [perform_period]; exact h.period, ?_⟩
  cases m with
  | tick =>
    simp only [Alarm.perform]
    split_ifs
    · exact ⟨by norm_num [cleared], by norm_num [cleared]⟩
    · exact intSucc_range h.count
  | start => exact h.count
  | pause => exact h.count
  | reset => exact ⟨by norm_num [Alarm.perform, cleared], by norm_num [Alarm.perform, cleared]⟩
  | skip => exact h.count

theorem InRange.run (h : InRange a) (ms : List Move) : InRange (a.run ms) := by
  induction ms generalizing a with
  | nil => exact h
  | cons m ms ih => exact ih (h.perform m)

/-- An alarm that is off only counts. -/
theorem run_ticks_off (hoff : a.on = false) {n : ℕ} (h : a.count + n < 2 ^ 31) :
    a.run (List.replicate n .tick) = { a with count := a.count + n } := by
  induction n with
  | zero => simp [run]
  | succ n ih =>
    push_cast at h ⊢
    have hdue (c : ℤ) : (Alarm.due { a with count := c }) = false := by simp [due, hoff]
    have hnext : intSucc (a.count + n) = a.count + (n + 1) := by
      unfold intSucc
      rw [if_neg (by omega), add_assoc]
    rw [List.replicate_succ', run_append, ih (by omega)]
    simp [run, perform, counted, hdue, hnext]

/-! ## Going off -/

theorem goesOff_cons (m : Move) :
    a.GoesOff (m :: ms) ↔ (m = .tick ∧ a.counted.due = true) ∨ (a.perform m).GoesOff ms := by
  constructor
  · rintro ⟨u, hu, hdue⟩
    cases u with
    | nil => exact .inl ⟨((List.cons_prefix_cons.mp hu).1).symm, hdue⟩
    | cons m' u =>
      rcases List.cons_prefix_cons.mp hu with ⟨rfl, htail⟩
      exact .inr ⟨u, htail, hdue⟩
  · rintro (⟨rfl, hdue⟩ | ⟨u, hu, hdue⟩)
    · exact ⟨[], List.cons_prefix_cons.mpr ⟨rfl, List.nil_prefix⟩, hdue⟩
    · exact ⟨m :: u, List.cons_prefix_cons.mpr ⟨rfl, hu⟩, hdue⟩

theorem Undisturbed.tail {m : Move} (h : a.Undisturbed (m :: ms)) : (a.perform m).Undisturbed ms where
  on u hu := h.on (m :: u) (List.cons_prefix_cons.mpr ⟨rfl, hu⟩)
  noReset hm := h.noReset (List.mem_cons_of_mem m hm)

/-- The count comes to the period within `n` ticks, directly or once around. -/
def Reaches (a : Alarm) (n : ℕ) : Prop :=
  (a.count < a.period ∧ a.period ≤ a.count + n) ∨
    (a.period ≤ a.count ∧ 2 ^ 32 + a.period ≤ a.count + n)

/-- A tick that does not set off the alarm brings the count one closer. -/
theorem reaches_succ (h : InRange a) (n : ℕ) :
    a.Reaches (n + 1) ↔ a.counted.count = a.period ∨ a.counted.Reaches n := by
  have hperiod := h.period
  have hcount := h.count
  unfold Reaches counted intSucc
  dsimp only
  push_cast
  split_ifs <;> omega

/-- An undisturbed alarm goes off exactly if its count reaches the period. -/
theorem goesOff_iff (h : InRange a) (hu : a.Undisturbed ms) :
    a.GoesOff ms ↔ a.Reaches (ms.count .tick) := by
  have hon : a.on = true := hu.on [] List.nil_prefix
  induction ms generalizing a with
  | nil =>
    constructor
    · rintro ⟨u, hpre, -⟩
      simp at hpre
    · intro hr
      unfold Reaches at hr
      have hcount := h.count
      have hperiod := h.period
      simp only [List.count_nil, Nat.cast_zero] at hr
      omega
  | cons m ms ih =>
    have hrest : (a.perform m).GoesOff ms ↔ (a.perform m).Reaches (ms.count .tick) :=
      ih (h.perform m) hu.tail (hu.on [m] (List.cons_prefix_cons.mpr ⟨rfl, List.nil_prefix⟩))
    rw [goesOff_cons, hrest]
    cases m with
    | tick =>
      rw [List.count_cons_self, reaches_succ h]
      by_cases hdue : a.counted.due = true
      · exact iff_of_true (.inl ⟨rfl, hdue⟩) (.inl ((due_counted hon).mp hdue))
      · have hne : a.counted.count ≠ a.period := fun he => hdue ((due_counted hon).mpr he)
        simp [hdue, hne, perform]
    | start =>
      have hsame : a.perform .start = a := by simp [perform, ← hon]
      simp [hsame]
    | pause =>
      have hoff := hu.on [.pause] (List.cons_prefix_cons.mpr ⟨rfl, List.nil_prefix⟩)
      cases hoff
    | reset => exact absurd List.mem_cons_self hu.noReset
    | skip => simp [perform]

/-- Within a period it goes off exactly if it was armed. -/
theorem goesOff_iff_armed (h : InRange a) (hu : a.Undisturbed ms) (hn : (ms.count .tick : ℤ) = a.period) :
    a.GoesOff ms ↔ a.Armed := by
  have hperiod := h.period
  have hcount := h.count
  rw [goesOff_iff h hu]
  unfold Reaches Armed
  omega

/-! ## Runs in which it is started armed -/

/-- An alarm that is on is armed. -/
theorem armed_of_startsArmed (h : InRange a) (hoff : a.on = true → a.Armed) (hs : a.StartsArmed ms) :
    (a.run ms).on = true → (a.run ms).Armed := by
  induction ms using List.reverseRecOn with
  | nil => exact hoff
  | append_singleton ms m ih =>
    have hprev := ih fun u hu => hs u (hu.trans (List.prefix_append ms [m]))
    have hrange := h.run ms
    have hperiod := hrange.period
    rw [run_append]
    change ((a.run ms).perform m).on = true → ((a.run ms).perform m).Armed
    cases m with
    | tick =>
      simp only [perform]
      split_ifs with hdue
      · intro
        exact ⟨le_rfl, hperiod.1⟩
      · intro hon
        have harmed := hprev hon
        have hne : intSucc (a.run ms).count ≠ (a.run ms).period :=
          fun he => hdue ((due_counted (show (a.run ms).on = true from hon)).mpr he)
        unfold Armed counted intSucc at *
        dsimp only
        split_ifs at hne ⊢ <;> omega
    | start =>
      intro
      by_cases hon : (a.run ms).on = true
      · exact hprev hon
      · exact hs ms List.prefix_rfl (by simpa using hon)
    | pause =>
      intro hon
      cases hon
    | reset =>
      intro
      exact ⟨le_rfl, hperiod.1⟩
    | skip => exact hprev

end Runs

/-! ## Alarms inside a machine -/

section Machine
variable {σ ω : Type} (step : σ → ω → σ) (alarm : σ → Alarm) (move : σ → ω → Move)

/-- The moves of the alarm in a run of the machine. -/
def movesOf : σ → List ω → List Move
  | _, [] => []
  | s, o :: os => move s o :: movesOf (step s o) os

/-- In states of `I` the operations of the machine are moves of the alarm. -/
structure Inside (I : σ → Prop) : Prop where
  keeps : ∀ s o, I s → I (step s o)
  moves : ∀ s o, I s → alarm (step s o) = (alarm s).perform (move s o)

/-- As many ticks as the period, with the alarm on and its count not cleared from outside. -/
structure Window (s : σ) (w : List ω) : Prop where
  ticks : ((movesOf step move s w).count .tick : ℤ) = (alarm s).period
  on : ∀ u, u <+: w → (alarm (u.foldl step s)).on = true
  noReset : ∀ u o, u ++ [o] <+: w → move (u.foldl step s) o ≠ .reset

/-- The alarm goes off in a run of the machine. -/
def Fires (s : σ) (w : List ω) : Prop :=
  ∃ u o, u ++ [o] <+: w ∧ move (u.foldl step s) o = .tick ∧ (alarm (u.foldl step s)).counted.due = true

/-- Every operation that switches the alarm on finds it armed. -/
def SwitchesArmed (s : σ) (ops : List ω) : Prop :=
  ∀ u o, u ++ [o] <+: ops → move (u.foldl step s) o = .start → (alarm (u.foldl step s)).on = false →
    (alarm (u.foldl step s)).Armed

variable {step alarm move}

theorem movesOf_append (s : σ) (u v : List ω) :
    movesOf step move s (u ++ v) = movesOf step move s u ++ movesOf step move (u.foldl step s) v := by
  induction u generalizing s with
  | nil => rfl
  | cons o u ih => simp [movesOf, ih]

theorem movesOf_length (s : σ) (ops : List ω) : (movesOf step move s ops).length = ops.length := by
  induction ops generalizing s with
  | nil => rfl
  | cons o ops ih => simp [movesOf, ih]

theorem prefix_movesOf {s : σ} {ops : List ω} {v : List Move} :
    v <+: movesOf step move s ops ↔ ∃ u, u <+: ops ∧ movesOf step move s u = v := by
  constructor
  · intro hv
    refine ⟨ops.take v.length, List.take_prefix _ _, ?_⟩
    have hsplit : movesOf step move s ops = movesOf step move s (ops.take v.length) ++
        movesOf step move ((ops.take v.length).foldl step s) (ops.drop v.length) := by
      rw [← movesOf_append, List.take_append_drop]
    have hle := hv.length_le
    rw [movesOf_length] at hle
    have hlen : (movesOf step move s (ops.take v.length)).length = v.length := by
      rw [movesOf_length, List.length_take, min_eq_left hle]
    have hpre : movesOf step move s (ops.take v.length) <+: movesOf step move s ops := ⟨_, hsplit.symm⟩
    exact (List.prefix_of_prefix_length_le hpre hv hlen.le).eq_of_length hlen
  · rintro ⟨u, ⟨rest, rfl⟩, rfl⟩
    rw [movesOf_append]
    exact List.prefix_append _ _

theorem append_prefix_movesOf {s : σ} {ops : List ω} {v : List Move} {m : Move} :
    v ++ [m] <+: movesOf step move s ops ↔
      ∃ u o, u ++ [o] <+: ops ∧ movesOf step move s u = v ∧ move (u.foldl step s) o = m := by
  rw [prefix_movesOf]
  constructor
  · rintro ⟨u', hu', hv⟩
    rcases List.eq_nil_or_concat u' with rfl | ⟨u, o, rfl⟩
    · simp [movesOf] at hv
    · rw [List.concat_eq_append, movesOf_append] at hv
      rcases List.append_inj' hv rfl with ⟨hu, ho⟩
      exact ⟨u, o, by rwa [← List.concat_eq_append], hu, by simpa [movesOf] using ho⟩
  · rintro ⟨u, o, hpre, rfl, rfl⟩
    exact ⟨u ++ [o], hpre, by simp [movesOf_append, movesOf]⟩

/-- Operations that are ticks whatever the state. -/
theorem movesOf_replicate {o : ω} (ho : ∀ s, move s o = .tick) (n : ℕ) (s : σ) :
    movesOf step move s (List.replicate n o) = List.replicate n .tick := by
  induction n generalizing s with
  | zero => rfl
  | succ n ih => rw [List.replicate_succ, movesOf, ho, ih, ← List.replicate_succ]

namespace Inside
variable {I : σ → Prop} (h : Inside step alarm move I) {s : σ}
include h

theorem run (hs : I s) (ops : List ω) :
    I (ops.foldl step s) ∧ alarm (ops.foldl step s) = (alarm s).run (movesOf step move s ops) := by
  induction ops generalizing s with
  | nil => exact ⟨hs, rfl⟩
  | cons o ops ih =>
    rcases ih (h.keeps s o hs) with ⟨hI, hrun⟩
    refine ⟨hI, hrun.trans ?_⟩
    rw [h.moves s o hs]
    rfl

theorem fires_iff (hs : I s) (w : List ω) :
    Fires step alarm move s w ↔ (alarm s).GoesOff (movesOf step move s w) := by
  constructor
  · rintro ⟨u, o, hpre, hm, hdue⟩
    refine ⟨movesOf step move s u, append_prefix_movesOf.mpr ⟨u, o, hpre, rfl, hm⟩, ?_⟩
    rwa [← (h.run hs u).2]
  · rintro ⟨v, hpre, hdue⟩
    rcases append_prefix_movesOf.mp hpre with ⟨u, o, hu, rfl, hm⟩
    refine ⟨u, o, hu, hm, ?_⟩
    rwa [(h.run hs u).2]

theorem undisturbed (hs : I s) {w : List ω} (hw : Window step alarm move s w) :
    (alarm s).Undisturbed (movesOf step move s w) where
  on v hv := by
    rcases prefix_movesOf.mp hv with ⟨u, hu, rfl⟩
    rw [← (h.run hs u).2]
    exact hw.on u hu
  noReset hm := by
    rcases List.append_of_mem hm with ⟨v, rest, hsplit⟩
    have hpre : v ++ [.reset] <+: movesOf step move s w := ⟨rest, by simp [hsplit]⟩
    rcases append_prefix_movesOf.mp hpre with ⟨u, o, hu, -, ho⟩
    exact hw.noReset u o hu ho

theorem startsArmed_iff (hs : I s) (ops : List ω) :
    SwitchesArmed step alarm move s ops ↔ (alarm s).StartsArmed (movesOf step move s ops) := by
  constructor
  · intro hsw v hpre hoff
    rcases append_prefix_movesOf.mp hpre with ⟨u, o, hu, rfl, ho⟩
    rw [← (h.run hs u).2] at hoff ⊢
    exact hsw u o hu ho hoff
  · intro hst u o hpre ho hoff
    rw [(h.run hs u).2] at hoff ⊢
    exact hst _ (append_prefix_movesOf.mpr ⟨u, o, hpre, rfl, ho⟩) hoff

/-- A window fires exactly if it begins with the alarm armed. -/
theorem fires_iff_armed (hs : I s) (hr : InRange (alarm s)) {w : List ω}
    (hw : Window step alarm move s w) : Fires step alarm move s w ↔ (alarm s).Armed := by
  rw [h.fires_iff hs]
  exact goesOff_iff_armed hr (h.undisturbed hs hw) hw.ticks

/-- Ticks alone are a window of an alarm that is on. -/
theorem window_replicate (hs : I s) {o : ω} (ho : ∀ s, move s o = .tick) (hon : (alarm s).on = true)
    (hp : 0 < (alarm s).period) :
    Window step alarm move s (List.replicate (alarm s).period.toNat o) := by
  have hstill (n : ℕ) (a : Alarm) : (a.run (List.replicate n .tick)).on = a.on := by
    induction n generalizing a with
    | zero => rfl
    | succ n ih =>
      refine (ih (a.perform .tick)).trans ?_
      simp only [perform]
      split_ifs <;> rfl
  constructor
  · rw [movesOf_replicate ho, List.count_replicate_self]
    omega
  · intro u hu
    rcases List.prefix_replicate_iff.mp hu with ⟨-, hu'⟩
    rw [(h.run hs u).2, hu', movesOf_replicate ho, hstill]
    exact hon
  · intro u o' hu hreset
    have hmem : o' ∈ List.replicate (alarm s).period.toNat o := hu.mem (by simp)
    rw [List.eq_of_mem_replicate hmem, ho] at hreset
    cases hreset

/-- From a state with the alarm off, all windows that begin in the run fire exactly if every
operation of the run that switches the alarm on finds it armed. -/
theorem keepsFiring_iff (hs : I s) (hr : InRange (alarm s)) (hoff : (alarm s).on = false) (o : ω)
    (ho : ∀ s, move s o = .tick) (ops : List ω) :
    (∀ u, u <+: ops → ∀ w, Window step alarm move (u.foldl step s) w →
      Fires step alarm move (u.foldl step s) w) ↔ SwitchesArmed step alarm move s ops := by
  have hrange (u : List ω) : InRange (alarm (u.foldl step s)) := by
    rw [(h.run hs u).2]
    exact hr.run _
  constructor
  · intro hfires u start hpre hstart _
    -- as many ticks as the period, right behind the start
    have hI := (h.run hs (u ++ [start])).1
    have hafter : alarm ((u ++ [start]).foldl step s) = { alarm (u.foldl step s) with on := true } := by
      rw [List.foldl_append]
      refine (h.moves _ start (h.run hs u).1).trans ?_
      rw [hstart]
      rfl
    have hon : (alarm ((u ++ [start]).foldl step s)).on = true := by rw [hafter]
    have hw := h.window_replicate hI ho hon (hrange _).period.1
    have harmed := (h.fires_iff_armed hI (hrange _) hw).mp (hfires _ hpre _ hw)
    rwa [hafter] at harmed
  · intro hsw u hu w hw
    have hI := (h.run hs u).1
    have hsu : SwitchesArmed step alarm move s u := fun v o hv => hsw v o (hv.trans hu)
    refine (h.fires_iff_armed hI (hrange u) hw).mpr ?_
    have hon := hw.on [] List.nil_prefix
    rw [List.foldl_nil, (h.run hs u).2] at hon
    rw [(h.run hs u).2]
    exact armed_of_startsArmed hr (fun hc => by simp [hoff] at hc) ((h.startsArmed_iff hs u).mp hsu) hon

end Inside

end Machine

end Alarm

end Sqrkal.Foundation
