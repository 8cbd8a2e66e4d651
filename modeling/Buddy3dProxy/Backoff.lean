/-!
# Capped exponential backoff

The schedule of `backoff.rs`: 1 s, 2 s, 4 s, 8 s, 16 s, then 30 s, each multiplied by a jitter factor
between 0.8 and 1.2. The sampled factor is not modelled; a delay is any number of milliseconds that
some factor in the range can give.
-/

namespace Buddy3dProxy

/-- The position in the schedule; a `u32` that saturates. -/
structure ExpBackoff where
  attempt : Nat
  deriving DecidableEq, Repr

namespace ExpBackoff

def baseSecs : List Nat := [1, 2, 4, 8, 16]

def capSecs : Nat := 30

def new : ExpBackoff := ⟨0⟩

def reset (_ : ExpBackoff) : ExpBackoff := ⟨0⟩

/-- The delay of the current attempt in seconds, before the jitter. -/
def raw (b : ExpBackoff) : Nat := baseSecs[b.attempt]?.getD capSecs

/-- The delays in milliseconds that `next_delay` may return now. -/
def mayDelay (b : ExpBackoff) (millis : Nat) : Bool :=
  800 * b.raw ≤ millis && millis ≤ 1200 * b.raw

/-- `next_delay` advances the schedule. -/
def next (b : ExpBackoff) : ExpBackoff := ⟨min (b.attempt + 1) (UInt32.size - 1)⟩

end ExpBackoff

end Buddy3dProxy
