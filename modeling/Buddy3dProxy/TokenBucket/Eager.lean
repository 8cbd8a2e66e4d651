import Mathlib.Data.Nat.Basic
import Mathlib.Logic.Function.Iterate

/-!
# The eager token bucket

A bucket of `capacity` tokens with a clock that adds one every `period` ticks. The clock runs only while
a token is missing. A bucket that refills lazily is compared with this one through its `credit`: the
tokens and the part of the next one, in ticks.
-/

namespace TokenBucket

inductive Eager (capacity period : Nat) where
  /-- No token is missing, and the clock stands still. -/
  | full
  /-- The clock has run for `elapsed` ticks since the last token it added or since it was started. -/
  | running (tokens elapsed : Nat) (missing : tokens < capacity) (within : elapsed < period)
  deriving DecidableEq, Repr

namespace Eager

variable {capacity period : Nat}

/-- One tick of the clock; at the end of a period it adds a token. -/
def tick : Eager capacity period → Eager capacity period
  | full => full
  | running tokens elapsed missing within =>
    if h : elapsed + 1 < period then running tokens (elapsed + 1) missing h
    else if h : tokens + 1 < capacity then running (tokens + 1) 0 h (Nat.zero_lt_of_lt within)
    else full

def elapse (s : Eager capacity period) (ticks : Nat) : Eager capacity period := tick^[ticks] s

/-- A token is given back. -/
def earn : Eager capacity period → Eager capacity period
  | full => full
  | running tokens elapsed _ within =>
    if h : tokens + 1 < capacity then running (tokens + 1) elapsed h within else full

/-- A token is taken, if there is one. The first one taken from a full bucket starts the clock. -/
def spend : Eager capacity period → Eager capacity period
  | full =>
    if h : 0 < capacity ∧ 0 < period then running (capacity - 1) 0 (Nat.sub_one_lt_of_lt h.1) h.2
    else full
  | running tokens elapsed missing within =>
    running (tokens - 1) elapsed (Nat.lt_of_le_of_lt (Nat.sub_le _ _) missing) within

def tokens : Eager capacity period → Nat
  | full => capacity
  | running tokens _ _ _ => tokens

/-- The ticks until there is a token. -/
def wait : Eager capacity period → Nat
  | full => 0
  | running 0 elapsed _ _ => period - elapsed
  | running (_ + 1) _ _ _ => 0

/-- The tokens and the part of the next one, in ticks. -/
def credit : Eager capacity period → Nat
  | full => capacity * period
  | running tokens elapsed _ _ => tokens * period + elapsed

theorem elapse_add (s : Eager capacity period) (m n : Nat) :
    s.elapse (m + n) = (s.elapse m).elapse n := by
  unfold elapse
  rw [Nat.add_comm, Function.iterate_add_apply]

/-- With a token missing, the credit of the next one is still to come. -/
theorem credit_running_lt {tokens elapsed : Nat} (missing : tokens < capacity)
    (within : elapsed < period) : tokens * period + elapsed < capacity * period := by
  have hnext : (tokens + 1) * period ≤ capacity * period := Nat.mul_le_mul_right _ missing
  rw [Nat.succ_mul] at hnext
  omega

theorem credit_le (s : Eager capacity period) : s.credit ≤ capacity * period := by
  cases s with
  | full => exact Nat.le_refl _
  | running tokens elapsed missing within => exact Nat.le_of_lt (credit_running_lt missing within)

theorem credit_tick (s : Eager capacity period) :
    s.tick.credit = min (s.credit + 1) (capacity * period) := by
  cases s with
  | full =>
    show capacity * period = min (capacity * period + 1) (capacity * period)
    omega
  | running tokens elapsed missing within =>
    have hlt := credit_running_lt missing within
    by_cases hend : elapsed + 1 < period
    · simp only [tick, dif_pos hend, credit]
      omega
    · have hperiod : elapsed + 1 = period := by omega
      have hnext : (tokens + 1) * period = tokens * period + elapsed + 1 := by
        rw [Nat.succ_mul]
        omega
      by_cases hmore : tokens + 1 < capacity
      · simp only [tick, dif_neg hend, dif_pos hmore, credit]
        omega
      · have hcap : tokens + 1 = capacity := by omega
        simp only [tick, dif_neg hend, dif_neg hmore, credit]
        rw [← hcap]
        omega

theorem credit_elapse (s : Eager capacity period) (ticks : Nat) :
    (s.elapse ticks).credit = min (s.credit + ticks) (capacity * period) := by
  induction ticks with
  | zero =>
    have hle := s.credit_le
    show s.credit = _
    omega
  | succ ticks ih =>
    rw [elapse_add]
    show (s.elapse ticks).tick.credit = _
    rw [credit_tick, ih]
    omega

theorem credit_earn (s : Eager capacity period) :
    s.earn.credit = min (s.credit + period) (capacity * period) := by
  cases s with
  | full =>
    show capacity * period = min (capacity * period + period) (capacity * period)
    omega
  | running tokens elapsed missing within =>
    by_cases hmore : tokens + 1 < capacity
    · have hlt := credit_running_lt hmore within
      simp only [earn, dif_pos hmore, credit]
      rw [Nat.succ_mul] at hlt ⊢
      omega
    · have hcap : capacity = tokens + 1 := by omega
      simp only [earn, dif_neg hmore, credit]
      rw [hcap, Nat.succ_mul]
      omega

/-- Spending takes a token's worth of credit. -/
theorem credit_spend_of_le (hcapacity : 0 < capacity) (hperiod : 0 < period)
    {s : Eager capacity period} (h : period ≤ s.credit) : s.spend.credit = s.credit - period := by
  cases s with
  | full =>
    simp only [spend, dif_pos (And.intro hcapacity hperiod), credit]
    rw [Nat.sub_mul, Nat.one_mul, Nat.add_zero]
  | running tokens elapsed missing within =>
    cases tokens with
    | zero =>
      simp only [credit] at h
      omega
    | succ tokens =>
      simp only [spend, credit, Nat.add_sub_cancel]
      rw [Nat.succ_mul]
      omega

/-- Without a token there is nothing to spend. -/
theorem credit_spend_of_lt (hcapacity : 0 < capacity) {s : Eager capacity period}
    (h : s.credit < period) : s.spend.credit = s.credit := by
  cases s with
  | full =>
    have hle : period ≤ capacity * period := Nat.le_mul_of_pos_left _ hcapacity
    exact absurd h (Nat.not_lt.mpr hle)
  | running tokens elapsed missing within =>
    cases tokens with
    | zero => rfl
    | succ tokens =>
      simp only [credit] at h
      rw [Nat.succ_mul] at h
      omega

theorem tokens_eq (hperiod : 0 < period) (s : Eager capacity period) :
    s.tokens = s.credit / period := by
  cases s with
  | full => exact (Nat.mul_div_cancel _ hperiod).symm
  | running tokens elapsed missing within =>
    simp only [Eager.tokens, credit]
    rw [Nat.mul_comm, Nat.mul_add_div hperiod, Nat.div_eq_of_lt within, Nat.add_zero]

theorem wait_eq (hcapacity : 0 < capacity) (s : Eager capacity period) :
    s.wait = period - s.credit := by
  cases s with
  | full =>
    have hle : period ≤ capacity * period := Nat.le_mul_of_pos_left _ hcapacity
    simp only [wait, credit]
    omega
  | running tokens elapsed missing within =>
    cases tokens with
    | zero => simp [wait, credit]
    | succ tokens =>
      simp only [wait, credit]
      rw [Nat.succ_mul]
      omega

end Eager

end TokenBucket
