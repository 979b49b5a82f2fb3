import Mathlib.Logic.Relation
import Mathlib.Tactic

/-! # Stateful programs that may stop

A program reads and writes a state and either returns or stops with a fault. A
program stays within a relation if it gets from state to state only by steps of
the relation, so an invariant of the steps is an invariant of the program.
-/

namespace Sqrkal.Foundation

abbrev Program (σ ε α : Type) := StateT σ (Except ε) α

variable {σ τ ε α β : Type}

/-! ## Running a program -/

theorem run_bind_ok {x : Program σ ε α} {f : α → Program σ ε β} {s s' : σ} {a : α}
    (h : x.run s = .ok (a, s')) : (x >>= f).run s = (f a).run s' := by
  rw [StateT.run_bind, h]
  rfl

theorem run_bind_error {x : Program σ ε α} {f : α → Program σ ε β} {s : σ} {e : ε}
    (h : x.run s = .error e) : (x >>= f).run s = .error e := by
  rw [StateT.run_bind, h]
  rfl

/-- A sequence whose first part does what another program does elsewhere. -/
theorem run_bind_congr {x y : Program σ ε α} {s t : σ} (h : x.run s = y.run t)
    (f : α → Program σ ε β) : (x >>= f).run s = (y >>= f).run t := by
  rw [StateT.run_bind, StateT.run_bind, h]

/-- A sequence returns only if its first part does. -/
theorem run_bind_eq_ok {x : Program σ ε α} {f : α → Program σ ε β} {s s' : σ} {b : β}
    (h : (x >>= f).run s = .ok (b, s')) :
    ∃ a t, x.run s = .ok (a, t) ∧ (f a).run t = .ok (b, s') := by
  cases hx : x.run s with
  | error e =>
    rw [run_bind_error hx] at h
    cases h
  | ok r =>
    rw [run_bind_ok hx] at h
    exact ⟨r.1, r.2, rfl, h⟩

theorem run_pure_eq (a : α) (s : σ) : (pure a : Program σ ε α).run s = .ok (a, s) := rfl

theorem run_get_bind (f : σ → Program σ ε α) (s : σ) : (get >>= f).run s = (f s).run s := rfl

theorem run_lift_ok {x : Except ε α} {a : α} (h : x = .ok a) (s : σ) :
    (liftM x : Program σ ε α).run s = .ok (a, s) := by
  rw [h]
  rfl

theorem run_lift_error {x : Except ε α} {e : ε} (h : x = .error e) (s : σ) :
    (liftM x : Program σ ε α).run s = .error e := by
  rw [h]
  rfl

theorem run_lift_eq_ok {x : Except ε α} {s s' : σ} {a : α}
    (h : (liftM x : Program σ ε α).run s = .ok (a, s')) : x = .ok a ∧ s' = s := by
  cases x with
  | error e =>
    rw [run_lift_error rfl] at h
    cases h
  | ok b =>
    cases h
    exact ⟨rfl, rfl⟩

/-- A check that can be evaluated, of the state a program ends in. -/
def endsIn (x : Program σ ε α) (s : σ) (check : σ → Bool) : Bool :=
  match x.run s with
  | .ok (_, t) => check t
  | .error _ => false

theorem endsIn_run {x : Program σ ε α} {s : σ} {check : σ → Bool} (h : endsIn x s check = true) :
    ∃ a t, x.run s = .ok (a, t) ∧ check t = true := by
  unfold endsIn at h
  cases hx : x.run s with
  | error e =>
    rw [hx] at h
    cases h
  | ok r =>
    rw [hx] at h
    exact ⟨r.1, r.2, rfl, h⟩

/-- A check that can be evaluated, of what a program returns. -/
def yields (x : Program σ ε α) (s : σ) (check : α → Bool) : Bool :=
  match x.run s with
  | .ok (a, _) => check a
  | .error _ => false

theorem yields_run {x : Program σ ε α} {s : σ} {check : α → Bool} (h : yields x s check = true) :
    ∃ a t, x.run s = .ok (a, t) ∧ check a = true := by
  unfold yields at h
  cases hx : x.run s with
  | error e =>
    rw [hx] at h
    cases h
  | ok r =>
    rw [hx] at h
    exact ⟨r.1, r.2, rfl, h⟩

/-! ## Steps of a program -/

section Steps
open Relation
variable {R : σ → σ → Prop}

/-- From the state `s` the program goes by steps of `R`. -/
def WithinAt (R : σ → σ → Prop) (s : σ) (x : Program σ ε α) : Prop :=
  ∀ a s', x.run s = .ok (a, s') → ReflTransGen R s s'

def Within (R : σ → σ → Prop) (x : Program σ ε α) : Prop := ∀ s, WithinAt R s x

theorem WithinAt.bind {s : σ} {x : Program σ ε α} {f : α → Program σ ε β} (hx : WithinAt R s x)
    (hf : ∀ a s', x.run s = .ok (a, s') → WithinAt R s' (f a)) : WithinAt R s (x >>= f) := by
  intro b s' h
  rcases run_bind_eq_ok h with ⟨a, t, ha, hb⟩
  exact (hx a t ha).trans (hf a t ha b s' hb)

/-- Nothing more happens after a program whose result is not used. -/
theorem WithinAt.bind_pure {s : σ} {x : Program σ ε α} {f : α → β} (hx : WithinAt R s x) :
    WithinAt R s (x >>= fun a => pure (f a)) := by
  intro b s' h
  rcases run_bind_eq_ok h with ⟨a, t, ha, hb⟩
  cases hb
  exact hx a _ ha

/-- A program that first gets somewhere by steps and goes on like another one. -/
theorem WithinAt.of_run_eq {s t : σ} {x y : Program σ ε α} (h : x.run s = y.run t)
    (hs : ReflTransGen R s t) (hy : WithinAt R t y) : WithinAt R s x := by
  intro a s' hr
  rw [h] at hr
  exact hs.trans (hy a s' hr)

/-- A program whose run is known. -/
theorem WithinAt.of_run {s t : σ} {x : Program σ ε α} {a : α} (h : x.run s = .ok (a, t)) (ht : R s t) :
    WithinAt R s x := by
  intro b s' hr
  rw [h] at hr
  cases hr
  exact .single ht

theorem WithinAt.get_bind {s : σ} {f : σ → Program σ ε α} (h : WithinAt R s (f s)) :
    WithinAt R s (get >>= f) := h

theorem WithinAt.modify_bind {s : σ} {g : σ → σ} {f : PUnit → Program σ ε α}
    (hg : ReflTransGen R s (g s)) (h : WithinAt R (g s) (f ⟨⟩)) : WithinAt R s (modify g >>= f) :=
  fun b s' hr => hg.trans (h b s' hr)

theorem WithinAt.modify {s : σ} {g : σ → σ} (h : R s (g s)) :
    WithinAt R s (modify g : Program σ ε PUnit) := by
  intro b s' hr
  cases hr
  exact .single h

namespace Within

theorem pure (a : α) : Within R (pure a : Program σ ε α) := by
  intro s b s' h
  cases h
  exact .refl

theorem bind {x : Program σ ε α} {f : α → Program σ ε β} (hx : Within R x)
    (hf : ∀ a, Within R (f a)) : Within R (x >>= f) :=
  fun s => (hx s).bind fun a s' _ => hf a s'

theorem get : Within R (get : Program σ ε σ) := by
  intro s a s' h
  cases h
  exact .refl

theorem get_bind {f : σ → Program σ ε α} (h : ∀ s, WithinAt R s (f s)) :
    Within R (MonadState.get >>= f) := h

theorem modify {g : σ → σ} (h : ∀ s, R s (g s)) : Within R (modify g : Program σ ε PUnit) :=
  fun s => WithinAt.modify (h s)

theorem throw (e : ε) : Within R (throw e : Program σ ε α) := by
  intro s a s' h
  have hr : (MonadExcept.throw e : Program σ ε α).run s = .error e := rfl
  rw [hr] at h
  cases h

theorem lift (x : Except ε α) : Within R (liftM x : Program σ ε α) := by
  cases x with
  | error e =>
    intro s a s' h
    rw [run_lift_error rfl] at h
    cases h
  | ok a => exact pure a

theorem ite {c : Prop} [Decidable c] {x y : Program σ ε α} (hx : Within R x) (hy : Within R y) :
    Within R (if c then x else y) := by
  split_ifs
  · exact hx
  · exact hy

theorem mono {R' : σ → σ → Prop} (h : ∀ s s', R s s' → R' s s') {x : Program σ ε α}
    (hx : Within R x) : Within R' x :=
  fun s a s' hr => ReflTransGen.lift id h _ _ (hx s a s' hr)

end Within

/-- What every step keeps, the program keeps. -/
theorem WithinAt.invariant {I : σ → Prop} {s s' : σ} {x : Program σ ε α} {a : α}
    (h : WithinAt R s x) (hI : ∀ t t', R t t' → I t → I t') (hs : I s)
    (hr : x.run s = .ok (a, s')) : I s' := by
  have hsteps := h a s' hr
  clear hr
  induction hsteps with
  | refl => exact hs
  | tail _ hstep ih => exact hI _ _ hstep ih

end Steps

/-! ## Programs that do what another one does -/

/-- Wherever the first program returns, the second one returns the same. -/
def Refines (x y : Program σ ε α) : Prop := ∀ s r, x.run s = .ok r → y.run s = .ok r

namespace Refines
variable {x y : Program σ ε α} {f g : α → Program σ ε β}

theorem refl (x : Program σ ε α) : Refines x x := fun _ _ h => h

theorem bind (hx : Refines x y) (hf : ∀ a, Refines (f a) (g a)) : Refines (x >>= f) (y >>= g) := by
  rintro s ⟨b, s'⟩ h
  rcases run_bind_eq_ok h with ⟨a, t, ha, hb⟩
  rw [run_bind_ok (hx s (a, t) ha)]
  exact hf a t (b, s') hb

theorem ite {c : Prop} [Decidable c] {x' y' : Program σ ε α} (hx : Refines x y)
    (hx' : Refines x' y') : Refines (if c then x else x') (if c then y else y') := by
  split_ifs
  · exact hx
  · exact hx'

/-- A program that stops instead of going on from some states. -/
theorem guard {c : σ → Prop} [DecidablePred c] {x : σ → Program σ ε α} (e : ε)
    (h : ∀ s, Refines (x s) y) :
    Refines (do
      let s ← get
      if c s then x s else throw e) y := by
  intro s r hr
  rw [run_get_bind] at hr
  split_ifs at hr with hc
  · exact h s s r hr
  · cases hr

end Refines

/-- A program on a component of the state. -/
def zoom (get : σ → τ) (set : τ → σ → σ) (x : Program τ ε α) : Program σ ε α := fun s =>
  match x.run (get s) with
  | .ok (a, t) => .ok (a, set t s)
  | .error e => .error e

theorem zoom_run {get : σ → τ} {set : τ → σ → σ} {x : Program τ ε α} {s : σ} {t : τ} {a : α}
    (h : x.run (get s) = .ok (a, t)) : (zoom get set x).run s = .ok (a, set t s) := by
  change (match x.run (get s) with
    | .ok (a, t) => Except.ok (a, set t s)
    | .error e => .error e) = _
  rw [h]

theorem zoom_eq_ok {get : σ → τ} {set : τ → σ → σ} {x : Program τ ε α} {s s' : σ} {a : α}
    (h : (zoom get set x).run s = .ok (a, s')) : ∃ t, x.run (get s) = .ok (a, t) ∧ s' = set t s := by
  change (match x.run (get s) with
    | .ok (a, t) => Except.ok (a, set t s)
    | .error e => .error e) = _ at h
  cases hx : x.run (get s) with
  | error e =>
    rw [hx] at h
    cases h
  | ok r =>
    rw [hx] at h
    cases h
    exact ⟨r.2, rfl, rfl⟩

/-- Steps of the component are steps of the whole. -/
theorem Within.zoom {R : σ → σ → Prop} {S : τ → τ → Prop} {get : σ → τ} {set : τ → σ → σ}
    {x : Program τ ε α} (hx : Within S x) (hself : ∀ s, set (get s) s = s)
    (hstep : ∀ s t t', S t t' → R (set t s) (set t' s)) : Within R (zoom get set x) := by
  intro s a s' h
  rcases zoom_eq_ok h with ⟨t, ht, rfl⟩
  have hsteps : Relation.ReflTransGen R (set (get s) s) (set t s) :=
    Relation.ReflTransGen.lift (fun t => set t s) (hstep s) _ _ (hx _ a t ht)
  rwa [hself] at hsteps

end Sqrkal.Foundation
