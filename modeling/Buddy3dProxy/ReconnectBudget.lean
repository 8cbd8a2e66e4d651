import Mathlib.Data.Nat.Basic

/-!
# The reconnect budget

The token bucket of `reconnect_budget.rs`: a failed connect attempt spends a token, a successful one
earns one back, and below capacity the bucket refills at one token per `refillPeriod`. Instants and
durations are counted in nanoseconds, and every call reads the clock once (`now`).
-/

namespace Buddy3dProxy

/-- Nanoseconds in a second. -/
def nanosPerSec : Nat := 1000000000

/-- Nanoseconds in a millisecond. -/
def nanosPerMilli : Nat := 1000000

/-- The token bucket. It never holds more than its capacity. -/
structure ReconnectBudget where
  tokens : Nat
  capacity : Nat
  refillPeriod : Nat
  lastRefill : Nat
  tokens_le : tokens ≤ capacity
  deriving DecidableEq

namespace ReconnectBudget

def defaultCapacity : Nat := 10

def defaultRefillPeriod : Nat := 5 * 60 * nanosPerSec

def new (capacity refillPeriod now : Nat) : ReconnectBudget :=
  ⟨capacity, capacity, refillPeriod, now, Nat.le_refl _⟩

/-- `Default::default()` at the instant `now`. -/
def default (now : Nat) : ReconnectBudget := new defaultCapacity defaultRefillPeriod now

/-- Add the tokens earned since `lastRefill`. A full bucket does not accrue. -/
def refill (b : ReconnectBudget) (now : Nat) : ReconnectBudget :=
  if b.tokens ≥ b.capacity then { b with lastRefill := now }
  else
    let earned := (now - b.lastRefill) / b.refillPeriod
    if earned = 0 then b
    else
      let earned := min earned b.capacity
      let tokens := min (b.tokens + earned) b.capacity
      { b with
        tokens := tokens
        lastRefill := if tokens ≥ b.capacity then now else b.lastRefill + b.refillPeriod * earned
        tokens_le := Nat.min_le_right _ _ }

/-- How long until the next attempt is allowed, zero if one is allowed now. -/
def waitTime (b : ReconnectBudget) (now : Nat) : Nat × ReconnectBudget :=
  let b := b.refill now
  (if b.tokens > 0 then 0 else b.refillPeriod - (now - b.lastRefill), b)

def recordSuccess (b : ReconnectBudget) (now : Nat) : ReconnectBudget :=
  let b := b.refill now
  { b with tokens := min (b.tokens + 1) b.capacity, tokens_le := Nat.min_le_right _ _ }

def recordFailure (b : ReconnectBudget) (now : Nat) : ReconnectBudget :=
  let b := b.refill now
  { b with tokens := b.tokens - 1, tokens_le := Nat.le_trans (Nat.sub_le _ _) b.tokens_le }

/-- `tokens()`: the tokens held at `now`, with the refilled bucket. -/
def tokensAt (b : ReconnectBudget) (now : Nat) : Nat × ReconnectBudget :=
  let b := b.refill now
  (b.tokens, b)

/-! ## What a refill earns -/

section Refill

variable (b : ReconnectBudget) (now : Nat)

theorem refill_capacity : (b.refill now).capacity = b.capacity := by
  simp only [refill]
  split
  · rfl
  · split <;> rfl

theorem refill_refillPeriod : (b.refill now).refillPeriod = b.refillPeriod := by
  simp only [refill]
  split
  · rfl
  · split <;> rfl

/-- The tokens after a refill: one more for each period since the last one, up to the capacity. -/
theorem refill_tokens :
    (b.refill now).tokens =
      min (b.tokens + (now - b.lastRefill) / b.refillPeriod) b.capacity := by
  have hle := b.tokens_le
  by_cases hfull : b.tokens ≥ b.capacity
  · rw [refill, if_pos hfull]
    show b.tokens = _
    generalize (now - b.lastRefill) / b.refillPeriod = earned
    omega
  · by_cases hearned : (now - b.lastRefill) / b.refillPeriod = 0
    · simp only [refill, if_neg hfull, hearned, if_true]
      omega
    · simp only [refill, if_neg hfull, if_neg hearned]
      generalize (now - b.lastRefill) / b.refillPeriod = earned
      omega

/-- Nothing that is computed overflows in the source, where tokens are a `u32`: for capacities below
2^31 their sums fit, and the refill clock is not set past `now`. -/
theorem refill_fits (hcapacity : b.capacity < 2147483648) :
    b.tokens + min ((now - b.lastRefill) / b.refillPeriod) b.capacity < 4294967296 ∧
      (b.refill now).tokens + 1 < 4294967296 ∧
      b.refillPeriod * min ((now - b.lastRefill) / b.refillPeriod) b.capacity ≤ now - b.lastRefill := by
  have hle := b.tokens_le
  have hrefill := (b.refill now).tokens_le
  rw [refill_capacity] at hrefill
  refine ⟨by omega, by omega, ?_⟩
  calc b.refillPeriod * min ((now - b.lastRefill) / b.refillPeriod) b.capacity
      ≤ b.refillPeriod * ((now - b.lastRefill) / b.refillPeriod) :=
        Nat.mul_le_mul_left _ (Nat.min_le_left _ _)
    _ ≤ now - b.lastRefill := Nat.mul_div_le _ _

theorem tokens_le_refill : b.tokens ≤ (b.refill now).tokens := by
  rw [refill_tokens]
  exact Nat.le_min.mpr ⟨Nat.le_add_right _ _, b.tokens_le⟩

theorem refill_tokens_mono {now' : Nat} (h : now ≤ now') :
    (b.refill now).tokens ≤ (b.refill now').tokens := by
  have hdiv : (now - b.lastRefill) / b.refillPeriod ≤ (now' - b.lastRefill) / b.refillPeriod :=
    Nat.div_le_div_right (Nat.sub_le_sub_right h _)
  rw [refill_tokens, refill_tokens]
  refine Nat.le_min.mpr ⟨?_, Nat.min_le_right _ _⟩
  exact Nat.le_trans (Nat.min_le_left _ _) (Nat.add_le_add_left hdiv _)

variable {b now}

theorem refill_lastRefill_le (h : b.lastRefill ≤ now) : (b.refill now).lastRefill ≤ now := by
  by_cases hfull : b.tokens ≥ b.capacity
  · rw [refill, if_pos hfull]
  · by_cases hearned : (now - b.lastRefill) / b.refillPeriod = 0
    · simp only [refill, if_neg hfull, hearned, if_true]
      exact h
    · simp only [refill, if_neg hfull, if_neg hearned]
      split
      · exact Nat.le_refl _
      · have hmul : b.refillPeriod * ((now - b.lastRefill) / b.refillPeriod) ≤ now - b.lastRefill :=
          Nat.mul_div_le _ _
        have hmin : b.refillPeriod * min ((now - b.lastRefill) / b.refillPeriod) b.capacity ≤
            b.refillPeriod * ((now - b.lastRefill) / b.refillPeriod) :=
          Nat.mul_le_mul_left _ (Nat.min_le_left _ _)
        omega

/-- What a refill adds to the tokens, the refill clock has advanced in whole periods. -/
theorem refill_credit (hp : 0 < b.refillPeriod) (h : b.lastRefill ≤ now) :
    (b.refill now).tokens + b.lastRefill / b.refillPeriod ≤
      b.tokens + (b.refill now).lastRefill / b.refillPeriod := by
  by_cases hfull : b.tokens ≥ b.capacity
  · rw [refill, if_pos hfull]
    exact Nat.add_le_add_left (Nat.div_le_div_right h) _
  · by_cases hearned : (now - b.lastRefill) / b.refillPeriod = 0
    · simp only [refill, if_neg hfull, hearned, if_true]
      exact Nat.le_refl _
    · simp only [refill, if_neg hfull, if_neg hearned]
      -- advancing the clock by whole periods adds as many to the quotient
      have hadd (e : Nat) : (b.lastRefill + b.refillPeriod * e) / b.refillPeriod =
          b.lastRefill / b.refillPeriod + e := Nat.add_mul_div_left _ _ hp
      split
      · have hclock : b.lastRefill + b.refillPeriod * ((now - b.lastRefill) / b.refillPeriod) ≤
            now := by
          have := Nat.mul_div_le (now - b.lastRefill) b.refillPeriod
          omega
        have hquot := Nat.div_le_div_right (c := b.refillPeriod) hclock
        rw [hadd] at hquot
        omega
      · rw [hadd]
        omega

end Refill

end ReconnectBudget

end Buddy3dProxy
