import Mathlib.Data.Nat.Pairing
import Mathlib.Data.Countable.Basic
import Mathlib.Logic.Relation
import Mathlib.Order.Filter.AtTopBot.Basic

/-! # Infinite behaviors

A behavior is a sequence of states in which each comes from the one before by a step, or is
the same. What a step keeps holds from the moment on at which it holds. A system that makes
moves of its own has a behavior in which every move is made again and again.
-/

namespace Sqrkal.Foundation
open Filter Relation

section Steps
variable {σ : Type*} {step : σ → σ → Prop} {run : ℕ → σ}

def IsBehavior (step : σ → σ → Prop) (run : ℕ → σ) : Prop :=
  ∀ n, step (run n) (run (n + 1)) ∨ run (n + 1) = run n

namespace IsBehavior

theorem mono {step' : σ → σ → Prop} (h : IsBehavior step run) (hs : ∀ s s', step s s' → step' s s') :
    IsBehavior step' run :=
  fun n => (h n).imp_left (hs _ _)

variable (h : IsBehavior step run)
include h

theorem reaches {m n : ℕ} (hmn : m ≤ n) : ReflTransGen step (run m) (run n) := by
  induction n, hmn using Nat.le_induction with
  | base => exact .refl
  | succ n _ ih =>
    rcases h n with hstep | hsame
    · exact ih.tail hstep
    · rw [hsame]
      exact ih

/-- What steps keep holds for good once it holds. -/
theorem eventually {p : σ → Prop} (hp : ∀ s s', step s s' → p s → p s') {n : ℕ} (hn : p (run n)) :
    ∀ᶠ m in atTop, p (run m) := by
  apply eventually_atTop.mpr
  refine ⟨n, fun m hm => ?_⟩
  induction m, hm using Nat.le_induction with
  | base => exact hn
  | succ m _ ih =>
    rcases h m with hstep | hsame
    · exact hp _ _ hstep ih
    · rwa [hsame]

end IsBehavior
end Steps

/-! ## Moves in turn -/

section Turns
variable {σ ι : Type*} (next : ι → σ → σ) (order : ℕ → ι) (s : σ)

/-- The moves of an enumeration, each of them once for every later number. -/
def inTurn : ℕ → σ
  | 0 => s
  | n + 1 => next (order n.unpair.1) (inTurn n)

variable {next order s}

theorem inTurn_isBehavior {step : σ → σ → Prop} {p : σ → Prop} (hs : p s)
    (hp : ∀ i t, p t → p (next i t) ∧ (step t (next i t) ∨ next i t = t)) :
    IsBehavior step (inTurn next order s) := by
  have hall : ∀ n, p (inTurn next order s n) := by
    intro n
    induction n with
    | zero => exact hs
    | succ n ih => exact (hp _ _ ih).1
  exact fun n => (hp _ _ (hall n)).2

/-- Every move is made again after any moment. -/
theorem inTurn_recurs (ho : Function.Surjective order) (i : ι) (n : ℕ) :
    ∃ m, n ≤ m ∧ inTurn next order s (m + 1) = next i (inTurn next order s m) := by
  rcases ho i with ⟨k, rfl⟩
  refine ⟨Nat.pair k n, Nat.right_le_pair k n, ?_⟩
  rw [inTurn, Nat.unpair_pair]

end Turns

end Sqrkal.Foundation
