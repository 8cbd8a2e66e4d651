import Buddy3dProxy.RateLimit
import Mathlib.Data.List.Basic

/-!
# Watching the bucket

The metrics emitter asks for the tokens every so often, and `tokens()` refills the bucket as `acquire()`
does. A refill sets the clock to the present and so forgets the part of a period that is over: what later
calls see depends on who has looked.
-/

namespace Buddy3dProxy.RateLimiter

/-- A call of the limiter's interface. -/
inductive Call where
  | acquire
  | complete (outcome : Outcome)
  | tokens
  deriving DecidableEq, Repr

namespace Inner

variable {l : RateLimiter} (inner : l.Inner) (now : Nat)

/-- The bucket after a call. -/
def call : Call → l.Inner
  | .acquire => (inner.acquire now).2
  | .complete outcome => inner.complete outcome
  | .tokens => (inner.tokensAt now).2

/-- The tokens that a call to `acquire` finds, and whether it gets one at once. -/
def observed : Call → List (Nat × Bool)
  | .acquire => [((inner.tick now).tokens, (inner.acquire now).1.isNone)]
  | _ => []

/-- The bucket after calls, each made at its instant. -/
def after (inner : l.Inner) : List (Nat × Call) → l.Inner
  | [] => inner
  | (now, c) :: rest => (inner.call now c).after rest

/-- What the calls to `acquire` find. -/
def acquires (inner : l.Inner) : List (Nat × Call) → List (Nat × Bool)
  | [] => []
  | (now, c) :: rest => inner.observed now c ++ (inner.call now c).acquires rest

/-- Each call to `tokens` comes when a refill does nothing. -/
def QuietPolls (inner : l.Inner) : List (Nat × Call) → Prop
  | [] => True
  | (now, c) :: rest => (c = .tokens → inner.Quiet now) ∧ (inner.call now c).QuietPolls rest

variable {inner now}

theorem acquires_tokens (rest : List (Nat × Call)) :
    inner.acquires ((now, .tokens) :: rest) = (inner.tick now).acquires rest := rfl

/-- Calls to `tokens` that refill nothing may be left out. -/
theorem acquires_filter {calls : List (Nat × Call)} (h : inner.QuietPolls calls) :
    inner.acquires (calls.filter fun x => x.2 ≠ .tokens) = inner.acquires calls := by
  induction calls generalizing inner with
  | nil => rfl
  | cons x rest ih =>
    obtain ⟨now, c⟩ := x
    obtain ⟨hquiet, hrest⟩ := h
    cases c with
    | tokens =>
      have htick : inner.tick now = inner := tick_of_quiet (hquiet rfl)
      have hsame : inner.call now .tokens = inner := htick
      rw [hsame] at hrest
      rw [List.filter_cons_of_neg (by simp), acquires_tokens, htick, ih hrest]
    | acquire =>
      rw [List.filter_cons_of_pos (by simp), acquires, acquires, ih hrest]
    | complete outcome =>
      rw [List.filter_cons_of_pos (by simp), acquires, acquires, ih hrest]

/-- A token is gone after a turn of `acquire`, if there was one, and the clock is that of the refill. -/
theorem acquire_snd (inner : l.Inner) (now : Nat) :
    (inner.acquire now).2.tokens = (inner.tick now).tokens - 1 ∧
      (inner.acquire now).2.lastRefill = (inner.tick now).lastRefill :=
  take_snd (inner.tick now) now

/-- The tokens that two later calls to `acquire` find. -/
theorem observed_two (first second : Nat) :
    (inner.acquires [(first, .acquire), (second, .acquire)]).map Prod.fst =
      [(inner.tick first).tokens, ((inner.acquire first).2.tick second).tokens] := by
  simp only [acquires, observed, call, List.cons_append, List.nil_append, List.map_cons, List.map_nil]

/-- A call to `tokens` that refills is seen by two calls to `acquire`, one right after it and one a
period later: by then the next token is due if the clock was set at the first of them, or not. -/
theorem seen_of_not_quiet (h : ¬ inner.Quiet now) :
    (inner.tick now).acquires [(now + 1, .acquire), (now + l.refillPeriod, .acquire)] ≠
      inner.acquires [(now + 1, .acquire), (now + l.refillPeriod, .acquire)] := by
  have hperiod : 1 < l.refillPeriod :=
    Nat.lt_of_lt_of_le (by decide) (Nat.le_mul_of_pos_right 1000000000 l.refillSecs_pos)
  have hcap : l.cap.toNat < 4294967296 := l.cap.toNat_lt
  obtain ⟨hnotfull, hlate⟩ := not_or.mp h
  have hle := inner.tokens_le
  -- with the clock set at `now`
  have hpolled := (tick_of_not_quiet h).2
  have hfirst : ((inner.tick now).tick (now + 1)) = inner.tick now := by
    refine tick_of_quiet (.inr ?_)
    rw [hpolled]
    omega
  have hsecond : (((inner.tick now).acquire (now + 1)).2.tick (now + l.refillPeriod)).tokens =
      max (inner.tick now).tokens 1 := by
    obtain ⟨htokens, hclock⟩ := acquire_snd (inner.tick now) (now + 1)
    rw [hfirst] at htokens hclock
    rw [hpolled] at hclock
    have hdue : ¬ ((inner.tick now).acquire (now + 1)).2.Quiet (now + l.refillPeriod) := by
      have hlt := (inner.tick now).tokens_le
      rintro (hfull | hearly)
      · omega
      · omega
    have hone : (now + l.refillPeriod - now) / l.refillPeriod = 1 := by
      rw [Nat.add_sub_cancel_left, Nat.div_self (by omega)]
    have hbound := (inner.tick now).tokens_le
    rw [(tick_of_not_quiet hdue).1, htokens, hclock, hone]
    omega
  -- with the clock set at the first `acquire`
  have hfirst' : ¬ inner.Quiet (now + 1) := by
    rintro (hfull | hearly)
    · omega
    · omega
  have hsecond' : ((inner.acquire (now + 1)).2.tick (now + l.refillPeriod)).tokens =
      (inner.tick (now + 1)).tokens - 1 := by
    obtain ⟨htokens, hclock⟩ := acquire_snd inner (now + 1)
    rw [(tick_of_not_quiet hfirst').2] at hclock
    rw [tick_of_quiet (.inr (by omega)), htokens]
  intro heq
  have hmap := congrArg (List.map Prod.fst) heq
  rw [observed_two, observed_two, hfirst, hsecond, hsecond'] at hmap
  simp only [List.cons.injEq, and_true] at hmap
  omega

end Inner

/-- Calls to `tokens` change nothing that a later `acquire` sees if they come when a refill does
nothing. One that comes at another time is seen by calls that may come after it, whatever came
before. -/
theorem acquires_polls (l : RateLimiter) (created : Nat) :
    (∀ calls, (l.new created).QuietPolls calls →
        (l.new created).acquires (calls.filter fun x => x.2 ≠ .tokens) =
          (l.new created).acquires calls) ∧
      ∀ history now, let inner := (l.new created).after history
        (∀ later, (now :: later.map Prod.fst).Pairwise (· ≤ ·) →
            inner.acquires ((now, .tokens) :: later) = inner.acquires later) ↔ inner.Quiet now := by
  refine ⟨fun calls h => Inner.acquires_filter h, ?_⟩
  intro history now inner
  constructor
  · intro hunseen
    by_contra hquiet
    have hsorted : (now :: [(now + 1, Call.acquire), (now + l.refillPeriod, Call.acquire)].map
        Prod.fst).Pairwise (· ≤ ·) := by
      have hperiod : 0 < l.refillPeriod := Inner.refillPeriod_pos
      simp only [List.map_cons, List.map_nil, List.pairwise_cons, List.mem_cons, List.not_mem_nil,
        or_false, forall_eq_or_imp, forall_eq]
      exact ⟨⟨by omega, by omega⟩, by omega, fun _ h => absurd h not_false, .nil⟩
    exact Inner.seen_of_not_quiet hquiet ((Inner.acquires_tokens _).symm.trans (hunseen _ hsorted))
  · intro hquiet later _
    rw [Inner.acquires_tokens, Inner.tick_of_quiet hquiet]

/-- Looking at a full bucket and within the first minute after it was drained. -/
theorem acquires_polls_early :
    let calls : List (Nat × Call) := [(7 * 1000000000, .tokens), (8 * 1000000000, .acquire),
      (9 * 1000000000, .complete .serverOrNetworkError), (20 * 1000000000, .tokens),
      (59 * 1000000000, .tokens), (60 * 1000000000, .acquire)]
    (standard.new 0).acquires (calls.filter fun x => x.2 ≠ .tokens) = (standard.new 0).acquires calls := by
  intro calls
  have hquiet : (standard.new 0).QuietPolls calls := by
    simp only [calls, Inner.QuietPolls]
    decide
  exact (acquires_polls standard 0).1 calls hquiet

/-- Of two tokens earned after the bucket was drained, looking once in between loses one. -/
theorem not_acquires_polls :
    let calls : List (Nat × Call) := [(0, .acquire), (0, .acquire), (0, .acquire),
      (0, .complete .serverOrNetworkError), (0, .complete .serverOrNetworkError),
      (0, .complete .serverOrNetworkError), (90 * 1000000000, .tokens), (120 * 1000000000, .acquire),
      (120 * 1000000000, .acquire)]
    (standard.new 0).acquires (calls.filter fun x => x.2 ≠ .tokens) =
        [(3, true), (2, true), (1, true), (2, true), (1, true)] ∧
      (standard.new 0).acquires calls = [(3, true), (2, true), (1, true), (1, true), (0, false)] := by
  intro calls
  exact ⟨by decide, by decide⟩

end Buddy3dProxy.RateLimiter
