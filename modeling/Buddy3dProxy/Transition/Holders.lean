import Mathlib.Algebra.BigOperators.Intervals
import Mathlib.Data.List.Basic

/-!
# Things and their holders

Tasks hold numbered things, each task one at most (`f x = some j`). Counting the holders of every
thing counts the tasks that hold one (`sum_holders`), so where each thing of a list is held once
exactly as long as it is in use, the holders number the things in use.
-/

namespace Transition.Holders

variable {τ υ : Type*} {l : List τ} {f : τ → Option Nat} {n : Nat}

/-- The tasks that hold one of the first `n` things, counted by what they hold. -/
theorem sum_holders (hf : ∀ x ∈ l, ∀ j, f x = some j → j < n) :
    ∑ j ∈ Finset.range n, l.countP (f · == some j) = l.countP fun x => (f x).isSome := by
  induction l with
  | nil => simp
  | cons x l ih =>
    have hrest := ih fun y hy => hf y (List.mem_cons_of_mem _ hy)
    simp only [List.countP_cons, Finset.sum_add_distrib, hrest]
    congr 1
    cases hx : f x with
    | none => simp
    | some k =>
      have hk := hf x List.mem_cons_self k hx
      simp [hk]

/-- A count over a list, entry by entry. -/
theorem countP_eq_sum (q : υ → Bool) (m : List υ) :
    m.countP q = ∑ j ∈ Finset.range m.length, if m[j]?.any q then 1 else 0 := by
  induction m with
  | nil => rfl
  | cons y m ih =>
    rw [List.length_cons, Finset.sum_range_succ', List.countP_cons, ih]
    simp

end Transition.Holders
