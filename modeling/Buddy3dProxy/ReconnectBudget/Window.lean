import Buddy3dProxy.ReconnectBudget.Eager
import Buddy3dProxy.TokenBucket.Window
import Mathlib.Data.List.Count

/-!
# Failures in a window

Whatever happened before, a window of time sees at most as many failed attempts as the capacity, the
successes in it and its length allow.
-/

namespace Buddy3dProxy.ReconnectBudget

open TokenBucket (Entry Paced)

/-- Every failure is recorded while there is a token. -/
def admits (b : ReconnectBudget) : List (Nat × Call) → Bool
  | [] => true
  | (now, c) :: rest => (c ≠ .recordFailure || 1 ≤ (b.tokensAt now).1) && (b.call now c).2.admits rest

/-- How often `c` is called from `s` to `t`. -/
def callsIn (c : Call) (s t : Nat) (calls : List (Nat × Call)) : Nat :=
  calls.countP fun x => s ≤ x.1 ∧ x.1 ≤ t ∧ x.2 = c

/-- A failure costs a token, and a success gives one back. -/
def entry (x : Nat × Call) : Entry :=
  ⟨x.1, if x.2 = .recordFailure then 1 else 0, if x.2 = .recordSuccess then 1 else 0⟩

theorem spentIn_map_entry (s t : Nat) (calls : List (Nat × Call)) :
    Entry.spentIn s t (calls.map entry) = callsIn .recordFailure s t calls := by
  induction calls with
  | nil => rfl
  | cons x rest ih =>
    unfold callsIn at ih ⊢
    rw [List.map_cons, Entry.spentIn, ih, List.countP_cons, Nat.add_comm]
    congr 1
    by_cases hin : s ≤ x.1 ∧ x.1 ≤ t <;> by_cases hc : x.2 = .recordFailure <;> simp [entry, hin, hc]

theorem earnedIn_map_entry (s t : Nat) (calls : List (Nat × Call)) :
    Entry.earnedIn s t (calls.map entry) = callsIn .recordSuccess s t calls := by
  induction calls with
  | nil => rfl
  | cons x rest ih =>
    unfold callsIn at ih ⊢
    rw [List.map_cons, Entry.earnedIn, ih, List.countP_cons, Nat.add_comm]
    congr 1
    by_cases hin : s ≤ x.1 ∧ x.1 ≤ t <;> by_cases hc : x.2 = .recordSuccess <;> simp [entry, hin, hc]

section Call

variable {b : ReconnectBudget} {now : Nat} (c : Call)

/-- A call leaves the parameters of the budget alone and sets no clock past `now`. -/
theorem call_frame (hlast : b.lastRefill ≤ now) :
    (b.call now c).2.capacity = b.capacity ∧ (b.call now c).2.refillPeriod = b.refillPeriod ∧
      (b.call now c).2.lastRefill ≤ now := by
  have hframe : (b.refill now).capacity = b.capacity ∧ (b.refill now).refillPeriod = b.refillPeriod ∧
      (b.refill now).lastRefill ≤ now :=
    ⟨b.refill_capacity now, b.refill_refillPeriod now, refill_lastRefill_le hlast⟩
  cases c <;> exact hframe

variable {c}

/-- What a call costs, the credit pays. -/
theorem call_paid (hp : 0 < b.refillPeriod) (hlast : b.lastRefill ≤ now)
    (htoken : c = .recordFailure → 1 ≤ (b.tokensAt now).1) :
    (b.call now c).2.credit now + b.refillPeriod * (entry (now, c)).spent ≤
      b.credit now + b.refillPeriod * (entry (now, c)).earned := by
  have hrefill := (refill_refilled hp hlast).2
  cases c with
  | recordSuccess =>
    show (b.recordSuccess now).credit now + b.refillPeriod * 0 ≤ b.credit now + b.refillPeriod * 1
    rw [recordSuccess_credit hp hlast]
    omega
  | recordFailure =>
    have hpos : 1 ≤ (b.refill now).tokens := htoken rfl
    have hpays : b.refillPeriod ≤ b.credit now := by
      rw [(refill_credit_eq hp hlast).1]
      exact Nat.le_add_right_of_le (Nat.le_mul_of_pos_left _ hpos)
    show (b.recordFailure now).credit now + b.refillPeriod * 1 ≤ b.credit now + b.refillPeriod * 0
    rw [recordFailure_credit_of_le hp hlast hpays]
    omega
  | tokens => exact Nat.le_of_eq (congrArg (· + _) hrefill)
  | waitTime => exact Nat.le_of_eq (congrArg (· + _) hrefill)

end Call

/-- The credit of a budget is an account that pays for the failures. -/
theorem paced {b : ReconnectBudget} {last : Nat} (hp : 0 < b.refillPeriod) (hlast : b.lastRefill ≤ last)
    {calls : List (Nat × Call)} (hsorted : (last :: calls.map Prod.fst).Pairwise (· ≤ ·))
    (hadmits : b.admits calls) :
    Paced (b.capacity * b.refillPeriod) b.refillPeriod last (b.credit last) (calls.map entry) := by
  induction calls generalizing b last with
  | nil => exact .nil _ _
  | cons x rest ih =>
    obtain ⟨now, c⟩ := x
    obtain ⟨hfirst, hrest⟩ := List.pairwise_cons.mp hsorted
    have hnow : last ≤ now := hfirst now List.mem_cons_self
    have hlast' : b.lastRefill ≤ now := Nat.le_trans hlast hnow
    obtain ⟨hcapacity, hperiod, hclock⟩ := call_frame c hlast'
    rw [admits, Bool.and_eq_true, Bool.or_eq_true, decide_eq_true_eq, decide_eq_true_eq] at hadmits
    have htoken : c = .recordFailure → 1 ≤ (b.tokensAt now).1 := fun hc =>
      hadmits.1.resolve_left (not_not_intro hc)
    have htail := ih (hperiod ▸ hp) hclock hrest hadmits.2
    rw [hcapacity, hperiod] at htail
    refine .cons (b.credit now) _ hnow ?_ (fun _ => credit_le) (call_paid hp hlast' htoken) htail
    show b.credit now ≤ b.credit last + (now - last)
    rw [credit_later hlast hnow]
    exact Nat.min_le_left _ _

/-- If failures are recorded only while there is a token, a window sees at most as many of them as the
capacity, the successes in it and the whole periods in it. -/
theorem callsIn_recordFailure_le {capacity period created : Nat} (hperiod : 0 < period)
    {calls : List (Nat × Call)} (hsorted : (created :: calls.map Prod.fst).Pairwise (· ≤ ·))
    (hadmits : (new capacity period created).admits calls) (s t : Nat) :
    callsIn .recordFailure s t calls ≤
      capacity + callsIn .recordSuccess s t calls + (t - s) / period := by
  have hpaced := paced (b := new capacity period created) hperiod (Nat.le_refl _) hsorted hadmits
  rw [← spentIn_map_entry, ← earnedIn_map_entry]
  exact hpaced.spentIn_le_div hperiod s t

/-- A bucket of two is drained, earns a token back, and after a period is drained again. -/
theorem callsIn_recordFailure_le_drained :
    let calls : List (Nat × Call) := [(5, .recordFailure), (6, .recordFailure), (7, .recordSuccess),
      (8, .recordFailure), (15, .recordFailure)]
    callsIn .recordFailure 5 15 calls ≤ 2 + callsIn .recordSuccess 5 15 calls + (15 - 5) / 10 := by
  intro calls
  have hsorted : (5 :: calls.map Prod.fst).Pairwise (· ≤ ·) := by decide
  have hadmits : (new 2 10 5).admits calls := by decide
  exact callsIn_recordFailure_le (by decide) hsorted hadmits 5 15

end Buddy3dProxy.ReconnectBudget
