import Buddy3dProxy.Rust.Time
import Mathlib.Data.Nat.Basic

/-!
# The rate limiter

The token bucket of `rate_limit.rs` in front of the HTTPS calls: a call takes a token, and one that
succeeds or is the client's own fault gives it back. Instants are counted in nanoseconds, and every
access to the bucket reads the clock once (`now`).
-/

namespace Buddy3dProxy

open Rust (Duration)

inductive Outcome where
  | success
  /-- 4xx. -/
  | clientError
  /-- 5xx, DNS, timeout, TLS, connection refused. -/
  | serverOrNetworkError
  deriving DecidableEq, Repr

/-- What does not change of a limiter. The refill period is a positive number of seconds: the source
divides by it. -/
structure RateLimiter where
  cap : UInt32
  refillSecs : Nat
  refillSecs_pos : 0 < refillSecs
  deriving DecidableEq

namespace RateLimiter

/-- The limiter of `main.rs`: three calls, and one more a minute. -/
def standard : RateLimiter := ⟨3, 60, by decide⟩

variable (l : RateLimiter)

/-- The refill period in nanoseconds. -/
def refillPeriod : Nat := 1000000000 * l.refillSecs

/-- The bucket. It never holds more than its cap. -/
structure Inner where
  tokens : Nat
  lastRefill : Nat
  tokens_le : tokens ≤ l.cap.toNat
  deriving DecidableEq

variable {l}

/-- The bucket of a limiter made at `now`: full. -/
def new (l : RateLimiter) (now : Nat) : l.Inner := ⟨l.cap.toNat, now, Nat.le_refl _⟩

namespace Inner

/-- Add the tokens earned since the last refill. The number of periods and the sum are a `u32`. -/
def tick (inner : l.Inner) (now : Nat) : l.Inner :=
  let elapsed := now - inner.lastRefill
  if l.refillPeriod ≤ elapsed ∧ inner.tokens < l.cap.toNat then
    let earned := Duration.asSecs elapsed / Duration.asSecs l.refillPeriod % 4294967296
    ⟨min ((inner.tokens + earned) % 4294967296) l.cap.toNat, now, Nat.min_le_right _ _⟩
  else inner

/-- A token is taken, or the time to sleep is returned. -/
def take (inner : l.Inner) (now : Nat) : Option Duration × l.Inner :=
  if inner.tokens > 0 then
    (none, ⟨inner.tokens - 1, inner.lastRefill, Nat.le_trans (Nat.sub_le _ _) inner.tokens_le⟩)
  else (some (l.refillPeriod - (now - inner.lastRefill)), inner)

/-- One turn of the loop of `acquire`. -/
def acquire (inner : l.Inner) (now : Nat) : Option Duration × l.Inner := (inner.tick now).take now

def refund (inner : l.Inner) : l.Inner :=
  if h : inner.tokens < l.cap.toNat then { inner with tokens := inner.tokens + 1, tokens_le := h }
  else inner

/-- `Permit::complete`. -/
def complete (inner : l.Inner) (outcome : Outcome) : l.Inner :=
  if outcome = .serverOrNetworkError then inner else inner.refund

/-- `tokens()`: the tokens held at `now`, with the bucket after it. -/
def tokensAt (inner : l.Inner) (now : Nat) : Nat × l.Inner :=
  let inner := inner.tick now
  (inner.tokens, inner)

theorem take_snd (inner : l.Inner) (now : Nat) :
    (inner.take now).2.tokens = inner.tokens - 1 ∧
      (inner.take now).2.lastRefill = inner.lastRefill := by
  unfold take
  by_cases hpos : inner.tokens > 0
  · rw [if_pos hpos]
    exact ⟨rfl, rfl⟩
  · rw [if_neg hpos]
    refine ⟨?_, rfl⟩
    show inner.tokens = inner.tokens - 1
    omega

/-! ## What a refill does -/

section Tick

variable {inner : l.Inner} {now : Nat}

theorem refillPeriod_pos : 0 < l.refillPeriod := Nat.mul_pos (by decide) l.refillSecs_pos

/-- Whole seconds over whole seconds: the periods that are over. -/
theorem asSecs_div (elapsed : Nat) :
    Duration.asSecs elapsed / Duration.asSecs l.refillPeriod = elapsed / l.refillPeriod := by
  unfold Duration.asSecs refillPeriod
  rw [Nat.mul_div_cancel_left _ (by decide), Nat.div_div_eq_div_mul]

/-- A refill does nothing for a full bucket, and before a period is over. -/
def Quiet (inner : l.Inner) (now : Nat) : Prop :=
  inner.tokens = l.cap.toNat ∨ now - inner.lastRefill < l.refillPeriod

instance (inner : l.Inner) (now : Nat) : Decidable (inner.Quiet now) :=
  inferInstanceAs (Decidable (_ ∨ _))

theorem tick_of_quiet (h : inner.Quiet now) : inner.tick now = inner := by
  have hcond : ¬ (l.refillPeriod ≤ now - inner.lastRefill ∧ inner.tokens < l.cap.toNat) := by
    rintro ⟨hperiod, htokens⟩
    rcases h with hfull | hearly
    · omega
    · omega
  simp only [tick, if_neg hcond]

theorem tick_of_not_quiet (h : ¬ inner.Quiet now) :
    (inner.tick now).tokens =
        min ((inner.tokens + (now - inner.lastRefill) / l.refillPeriod % 4294967296) % 4294967296)
          l.cap.toNat ∧
      (inner.tick now).lastRefill = now := by
  have hle := inner.tokens_le
  obtain ⟨hfull, hearly⟩ := not_or.mp h
  have hcond : l.refillPeriod ≤ now - inner.lastRefill ∧ inner.tokens < l.cap.toNat := by omega
  simp only [tick, if_pos hcond, asSecs_div, and_self]

theorem tick_lastRefill_le (h : inner.lastRefill ≤ now) : (inner.tick now).lastRefill ≤ now := by
  by_cases hq : inner.Quiet now
  · rw [tick_of_quiet hq]
    exact h
  · exact Nat.le_of_eq (tick_of_not_quiet hq).2

end Tick

end Inner

end RateLimiter

end Buddy3dProxy
