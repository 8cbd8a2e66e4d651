import Buddy3dProxy.ReconnectBudget
import Buddy3dProxy.TokenBucket.Eager

/-!
# The budget as an eager bucket

The budget refills when it is asked, with a division and a remainder kept in `lastRefill`. At every
instant it holds the credit of a bucket whose clock runs all the time a token is missing.
-/

namespace Buddy3dProxy

open TokenBucket (Eager)

namespace ReconnectBudget

/-- The tokens and the part of the next one, in nanoseconds, at `now`. -/
def credit (b : ReconnectBudget) (now : Nat) : Nat :=
  if b.tokens ≥ b.capacity then b.capacity * b.refillPeriod
  else min (b.tokens * b.refillPeriod + (now - b.lastRefill)) (b.capacity * b.refillPeriod)

/-- The budget is refilled up to `now`: what is left over is less than a token. -/
structure Refilled (b : ReconnectBudget) (now : Nat) : Prop where
  last : b.lastRefill ≤ now
  rest : now - b.lastRefill < b.refillPeriod
  full : b.capacity ≤ b.tokens → b.lastRefill = now

section Credit

variable {b : ReconnectBudget} {now : Nat}

theorem credit_le : b.credit now ≤ b.capacity * b.refillPeriod := by
  unfold credit
  split
  · exact Nat.le_refl _
  · exact Nat.min_le_right _ _

/-- Time adds to the credit up to that of a full bucket. -/
theorem credit_later {now' : Nat} (hlast : b.lastRefill ≤ now) (h : now ≤ now') :
    b.credit now' = min (b.credit now + (now' - now)) (b.capacity * b.refillPeriod) := by
  unfold credit
  split <;> omega

theorem Refilled.credit (h : b.Refilled now) :
    b.credit now = b.tokens * b.refillPeriod + (now - b.lastRefill) := by
  have hrest := h.rest
  unfold ReconnectBudget.credit
  by_cases hfull : b.capacity ≤ b.tokens
  · have hcap : b.tokens = b.capacity := Nat.le_antisymm b.tokens_le hfull
    rw [if_pos hfull, h.full hfull, hcap]
    omega
  · have hnext : (b.tokens + 1) * b.refillPeriod ≤ b.capacity * b.refillPeriod :=
      Nat.mul_le_mul_right _ (by omega)
    rw [Nat.succ_mul] at hnext
    rw [if_neg hfull]
    omega

theorem Refilled.tokens (h : b.Refilled now) : b.tokens = b.credit now / b.refillPeriod := by
  rw [h.credit, Nat.mul_comm, Nat.mul_add_div (Nat.zero_lt_of_lt h.rest), Nat.div_eq_of_lt h.rest,
    Nat.add_zero]

/-- The refill clock after a refill: whole periods on, or at `now` for a full bucket. -/
theorem refill_lastRefill (b : ReconnectBudget) (now : Nat) :
    (b.refill now).lastRefill =
      if b.capacity ≤ (b.refill now).tokens then now
      else b.lastRefill + b.refillPeriod * ((now - b.lastRefill) / b.refillPeriod) := by
  rw [refill_tokens]
  by_cases hfull : b.tokens ≥ b.capacity
  · rw [if_pos (Nat.le_min.mpr ⟨Nat.le_add_right_of_le hfull, Nat.le_refl _⟩), refill, if_pos hfull]
  by_cases hearned : (now - b.lastRefill) / b.refillPeriod = 0
  · rw [hearned, if_neg (by omega), Nat.mul_zero, Nat.add_zero]
    simp only [refill, if_neg hfull, hearned, if_true]
  · simp only [refill, if_neg hfull, if_neg hearned]
    generalize (now - b.lastRefill) / b.refillPeriod = earned
    by_cases hdone : b.capacity ≤ b.tokens + earned
    · rw [if_pos (by omega), if_pos (by omega)]
    · have hmin : min earned b.capacity = earned := by omega
      rw [if_neg (by omega), if_neg (by omega), hmin]

/-- A refill changes no credit: it turns whole periods into tokens. -/
theorem refill_refilled (hp : 0 < b.refillPeriod) (hlast : b.lastRefill ≤ now) :
    (b.refill now).Refilled now ∧ (b.refill now).credit now = b.credit now := by
  have hdiv := Nat.div_add_mod (now - b.lastRefill) b.refillPeriod
  have hmod := Nat.mod_lt (now - b.lastRefill) hp
  have htokens := b.refill_tokens now
  have hclock := b.refill_lastRefill now
  have hcapacity := b.refill_capacity now
  have hperiod := b.refill_refillPeriod now
  generalize (now - b.lastRefill) / b.refillPeriod = earned at hdiv htokens hclock
  have hle := b.tokens_le
  by_cases hdone : b.capacity ≤ b.tokens + earned
  · rw [Nat.min_eq_right hdone] at htokens
    rw [htokens, if_pos (Nat.le_refl _)] at hclock
    have hcredit : b.capacity * b.refillPeriod ≤ (b.tokens + earned) * b.refillPeriod :=
      Nat.mul_le_mul_right _ hdone
    rw [Nat.add_mul, Nat.mul_comm earned] at hcredit
    refine ⟨⟨by omega, by omega, fun _ => hclock⟩, ?_⟩
    unfold credit
    rw [htokens, hcapacity, hperiod, if_pos (Nat.le_refl _)]
    split <;> omega
  · rw [Nat.min_eq_left (by omega)] at htokens
    rw [htokens, if_neg hdone] at hclock
    refine ⟨⟨by omega, by omega, fun h => absurd h (by omega)⟩, ?_⟩
    unfold credit
    rw [htokens, hcapacity, hperiod, hclock, if_neg hdone, if_neg (by omega), Nat.add_mul,
      Nat.mul_comm earned]
    omega

/-- The credit of `k` tokens, spent or earned after a refill, and the part of the next one. -/
theorem credit_of_tokens (b' : ReconnectBudget) (hcapacity : b'.capacity = b.capacity)
    (hperiod : b'.refillPeriod = b.refillPeriod) (hclock : b'.lastRefill = (b.refill now).lastRefill) :
    b'.credit now = min (b'.tokens * b.refillPeriod + (now - (b.refill now).lastRefill))
      (b.capacity * b.refillPeriod) := by
  unfold credit
  rw [hcapacity, hperiod, hclock]
  split
  next hfull =>
    have hle : b.capacity * b.refillPeriod ≤ b'.tokens * b.refillPeriod :=
      Nat.mul_le_mul_right _ hfull
    omega
  next => rfl

theorem refill_credit_eq (hp : 0 < b.refillPeriod) (hlast : b.lastRefill ≤ now) :
    b.credit now = (b.refill now).tokens * b.refillPeriod + (now - (b.refill now).lastRefill) ∧
      now - (b.refill now).lastRefill < b.refillPeriod := by
  obtain ⟨hr, hsame⟩ := refill_refilled hp hlast
  have hcredit := hr.credit
  have hrest := hr.rest
  rw [refill_refillPeriod] at hcredit hrest
  exact ⟨hsame ▸ hcredit, hrest⟩

theorem recordSuccess_credit (hp : 0 < b.refillPeriod) (hlast : b.lastRefill ≤ now) :
    (b.recordSuccess now).credit now =
      min (b.credit now + b.refillPeriod) (b.capacity * b.refillPeriod) := by
  have hb' := credit_of_tokens (b.recordSuccess now) (b.refill_capacity now)
    (b.refill_refillPeriod now) rfl
  have htokens : (b.recordSuccess now).tokens = min ((b.refill now).tokens + 1) b.capacity := by
    rw [← b.refill_capacity now]
    rfl
  rw [hb', htokens, (refill_credit_eq hp hlast).1]
  by_cases hmore : (b.refill now).tokens + 1 ≤ b.capacity
  · rw [Nat.min_eq_left hmore, Nat.succ_mul]
    omega
  · have hfull : b.capacity ≤ (b.refill now).tokens + 1 := by omega
    have hcap : b.capacity * b.refillPeriod ≤ ((b.refill now).tokens + 1) * b.refillPeriod :=
      Nat.mul_le_mul_right _ hfull
    rw [Nat.succ_mul] at hcap
    rw [Nat.min_eq_right hfull]
    omega

theorem recordFailure_credit_of_le (hp : 0 < b.refillPeriod) (hlast : b.lastRefill ≤ now)
    (htoken : b.refillPeriod ≤ b.credit now) :
    (b.recordFailure now).credit now = b.credit now - b.refillPeriod := by
  have hb' := credit_of_tokens (b.recordFailure now) (b.refill_capacity now)
    (b.refill_refillPeriod now) rfl
  have htokens : (b.recordFailure now).tokens = (b.refill now).tokens - 1 := rfl
  have hle : b.credit now ≤ b.capacity * b.refillPeriod := credit_le
  obtain ⟨hcredit, hrest⟩ := refill_credit_eq hp hlast
  rw [hb', htokens]
  cases htok : (b.refill now).tokens with
  | zero =>
    rw [htok, Nat.zero_mul] at hcredit
    omega
  | succ k =>
    rw [htok, Nat.succ_mul] at hcredit
    rw [Nat.add_sub_cancel]
    omega

theorem recordFailure_credit_of_lt (hp : 0 < b.refillPeriod) (hlast : b.lastRefill ≤ now)
    (hempty : b.credit now < b.refillPeriod) : (b.recordFailure now).credit now = b.credit now := by
  have hb' := credit_of_tokens (b.recordFailure now) (b.refill_capacity now)
    (b.refill_refillPeriod now) rfl
  have htokens : (b.recordFailure now).tokens = (b.refill now).tokens - 1 := rfl
  have hle : b.credit now ≤ b.capacity * b.refillPeriod := credit_le
  obtain ⟨hcredit, -⟩ := refill_credit_eq hp hlast
  rw [hb', htokens]
  cases htok : (b.refill now).tokens with
  | zero =>
    rw [htok] at hcredit
    rw [Nat.zero_sub]
    omega
  | succ k =>
    rw [htok, Nat.succ_mul] at hcredit
    omega

end Credit

/-! ## Sequences of calls -/

/-- A call of the budget's interface. -/
inductive Call where
  | recordSuccess
  | recordFailure
  | tokens
  | waitTime
  deriving DecidableEq, Repr

/-- A call that only asks. -/
def Call.isPoll : Call → Bool
  | recordSuccess | recordFailure => false
  | tokens | waitTime => true

/-- What a call at `now` returns, and the budget after it. -/
def call (b : ReconnectBudget) (now : Nat) : Call → Option Nat × ReconnectBudget
  | .recordSuccess => (none, b.recordSuccess now)
  | .recordFailure => (none, b.recordFailure now)
  | .tokens => (some (b.tokensAt now).1, (b.tokensAt now).2)
  | .waitTime => (some (b.waitTime now).1, (b.waitTime now).2)

/-- What calls return, each made at its instant. -/
def results (b : ReconnectBudget) : List (Nat × Call) → List (Option Nat)
  | [] => []
  | (now, c) :: rest => (b.call now c).1 :: (b.call now c).2.results rest

section Ideal

variable {capacity period : Nat}

/-- The calls on an eager bucket. -/
def eagerCall (s : Eager capacity period) : Call → Option Nat × Eager capacity period
  | .recordSuccess => (none, s.earn)
  | .recordFailure => (none, s.spend)
  | .tokens => (some s.tokens, s)
  | .waitTime => (some s.wait, s)

/-- What calls on an eager bucket return whose clock has run up to `last`. -/
def eagerResults (s : Eager capacity period) (last : Nat) : List (Nat × Call) → List (Option Nat)
  | [] => []
  | (now, c) :: rest =>
    (eagerCall (s.elapse (now - last)) c).1 ::
      eagerResults (eagerCall (s.elapse (now - last)) c).2 now rest

/-- Asking an eager bucket changes nothing: the clock runs on as it would have. -/
theorem eagerResults_poll {s : Eager capacity period} {last now : Nat} {c : Call} (hpoll : c.isPoll)
    (hnow : last ≤ now) {rest : List (Nat × Call)} (hrest : ∀ x ∈ rest, now ≤ x.1) :
    eagerResults s last rest = eagerResults (eagerCall (s.elapse (now - last)) c).2 now rest := by
  have hsame : (eagerCall (s.elapse (now - last)) c).2 = s.elapse (now - last) := by
    cases c with
    | recordSuccess => cases hpoll
    | recordFailure => cases hpoll
    | tokens => rfl
    | waitTime => rfl
  rw [hsame]
  cases rest with
  | nil => rfl
  | cons x rest =>
    have hx := hrest x List.mem_cons_self
    have htime : x.1 - last = (now - last) + (x.1 - now) := by omega
    unfold eagerResults
    rw [htime, Eager.elapse_add]

/-- Without a call that only asks, the other calls return the same. -/
theorem eagerResults_eraseIdx {s : Eager capacity period} {last now : Nat} {c : Call}
    (hpoll : c.isPoll) {pre post : List (Nat × Call)}
    (hsorted : (last :: (pre ++ (now, c) :: post).map Prod.fst).Pairwise (· ≤ ·)) :
    eagerResults s last (pre ++ post) =
      (eagerResults s last (pre ++ (now, c) :: post)).eraseIdx pre.length := by
  induction pre generalizing s last with
  | nil =>
    obtain ⟨hfirst, hrest⟩ := List.pairwise_cons.mp hsorted
    have hpost : ∀ x ∈ post, now ≤ x.1 := by
      intro x hx
      exact (List.pairwise_cons.mp hrest).1 x.1 (List.mem_map_of_mem hx)
    exact eagerResults_poll hpoll (hfirst now List.mem_cons_self) hpost
  | cons x pre ih =>
    have hrest := (List.pairwise_cons.mp hsorted).2
    simp only [List.cons_append, eagerResults, List.length_cons, List.eraseIdx_cons_succ]
    rw [ih hrest]

end Ideal

/-! ## The simulation -/

/-- At `now` the budget holds the credit of the bucket. -/
structure Follows {capacity period : Nat} (b : ReconnectBudget) (now : Nat)
    (s : Eager capacity period) : Prop where
  capacity : b.capacity = capacity
  period : b.refillPeriod = period
  last : b.lastRefill ≤ now
  credit : b.credit now = s.credit

namespace Follows

variable {capacity period : Nat} {b : ReconnectBudget} {now now' : Nat} {s : Eager capacity period}

theorem new (capacity period now : Nat) :
    Follows (.new capacity period now) now (.full : Eager capacity period) where
  capacity := rfl
  period := rfl
  last := Nat.le_refl _
  credit := if_pos (Nat.le_refl _)

theorem later (h : Follows b now s) (hnow : now ≤ now') :
    Follows b now' (s.elapse (now' - now)) where
  capacity := h.capacity
  period := h.period
  last := Nat.le_trans h.last hnow
  credit := by rw [credit_later h.last hnow, Eager.credit_elapse, h.credit, h.capacity, h.period]

theorem refill (h : Follows b now s) (hp : 0 < period) : Follows (b.refill now) now s where
  capacity := by rw [refill_capacity, h.capacity]
  period := by rw [refill_refillPeriod, h.period]
  last := refill_lastRefill_le h.last
  credit := by rw [(refill_refilled (h.period ▸ hp) h.last).2, h.credit]

theorem recordSuccess (h : Follows b now s) (hp : 0 < period) :
    Follows (b.recordSuccess now) now s.earn where
  capacity := (h.refill hp).capacity
  period := (h.refill hp).period
  last := (h.refill hp).last
  credit := by
    rw [recordSuccess_credit (h.period ▸ hp) h.last, Eager.credit_earn, h.credit, h.capacity, h.period]

theorem recordFailure (h : Follows b now s) (hcap : 0 < capacity) (hp : 0 < period) :
    Follows (b.recordFailure now) now s.spend where
  capacity := (h.refill hp).capacity
  period := (h.refill hp).period
  last := (h.refill hp).last
  credit := by
    have hp' : 0 < b.refillPeriod := h.period ▸ hp
    by_cases htoken : period ≤ s.credit
    · rw [recordFailure_credit_of_le hp' h.last (by rw [h.credit, h.period]; exact htoken),
        Eager.credit_spend_of_le hcap hp htoken, h.credit, h.period]
    · rw [recordFailure_credit_of_lt hp' h.last (by rw [h.credit, h.period]; omega),
        Eager.credit_spend_of_lt hcap (by omega), h.credit]

theorem tokensAt (h : Follows b now s) (hp : 0 < period) : (b.tokensAt now).1 = s.tokens := by
  have hr := (refill_refilled (h.period ▸ hp) h.last).1
  show (b.refill now).tokens = _
  rw [hr.tokens, (h.refill hp).credit, (h.refill hp).period, Eager.tokens_eq hp]

theorem waitTime (h : Follows b now s) (hcap : 0 < capacity) (hp : 0 < period) :
    (b.waitTime now).1 = s.wait := by
  have hr := (refill_refilled (h.period ▸ hp) h.last).1
  have hcredit := hr.credit
  rw [(h.refill hp).credit, (h.refill hp).period] at hcredit
  have hle : (b.refill now).tokens > 0 → period ≤ (b.refill now).tokens * period :=
    fun hpos => Nat.le_mul_of_pos_left _ hpos
  show (if (b.refill now).tokens > 0 then 0
    else (b.refill now).refillPeriod - (now - (b.refill now).lastRefill)) = _
  rw [Eager.wait_eq hcap, (h.refill hp).period]
  by_cases hpos : (b.refill now).tokens > 0
  · have := hle hpos
    rw [if_pos hpos]
    omega
  · have hzero : (b.refill now).tokens = 0 := by omega
    rw [hzero, Nat.zero_mul] at hcredit
    rw [if_neg hpos]
    omega

/-- A call returns what it returns of the bucket. -/
theorem call (h : Follows b now s) (hcap : 0 < capacity) (hp : 0 < period) (c : Call) :
    (b.call now c).1 = (eagerCall s c).1 ∧ Follows (b.call now c).2 now (eagerCall s c).2 := by
  cases c with
  | recordSuccess => exact ⟨rfl, h.recordSuccess hp⟩
  | recordFailure => exact ⟨rfl, h.recordFailure hcap hp⟩
  | tokens => exact ⟨congrArg some (h.tokensAt hp), h.refill hp⟩
  | waitTime => exact ⟨congrArg some (h.waitTime hcap hp), h.refill hp⟩

theorem results (h : Follows b now s) (hcap : 0 < capacity) (hp : 0 < period)
    {calls : List (Nat × Call)} (hsorted : (now :: calls.map Prod.fst).Pairwise (· ≤ ·)) :
    b.results calls = eagerResults s now calls := by
  induction calls generalizing b now s with
  | nil => rfl
  | cons x rest ih =>
    obtain ⟨now', c⟩ := x
    obtain ⟨hfirst, hrest⟩ := List.pairwise_cons.mp hsorted
    have hnow : now ≤ now' := hfirst now' List.mem_cons_self
    obtain ⟨hresult, hnext⟩ := (h.later hnow).call hcap hp c
    unfold ReconnectBudget.results eagerResults
    rw [hresult, ih hnext hrest]

end Follows

/-- Calls at non-decreasing times return what they return of the eager bucket, and a call that only
asks changes the result of no other call. -/
theorem results_eq_eager {capacity period created : Nat} (hcapacity : 0 < capacity)
    (hperiod : 0 < period) {calls : List (Nat × Call)}
    (hsorted : (created :: calls.map Prod.fst).Pairwise (· ≤ ·)) :
    (new capacity period created).results calls =
        eagerResults (.full : Eager capacity period) created calls ∧
      ∀ pre now c post, calls = pre ++ (now, c) :: post → c.isPoll →
        (new capacity period created).results (pre ++ post) =
          ((new capacity period created).results calls).eraseIdx pre.length := by
  have hnew := Follows.new capacity period created
  refine ⟨hnew.results hcapacity hperiod hsorted, ?_⟩
  rintro pre now c post rfl hpoll
  have hsub : (created :: (pre ++ post).map Prod.fst).Pairwise (· ≤ ·) := by
    have hsublist : (pre ++ post).Sublist (pre ++ (now, c) :: post) :=
      (List.Sublist.refl pre).append (List.sublist_cons_self _ _)
    exact hsorted.sublist ((hsublist.map Prod.fst).cons_cons created)
  rw [hnew.results hcapacity hperiod hsub, hnew.results hcapacity hperiod hsorted]
  exact eagerResults_eraseIdx hpoll hsorted

/-- Three failures, and questions before and after the first two periods are over. -/
theorem results_eq_eager_drained :
    let calls : List (Nat × Call) := [(5, .recordFailure), (6, .recordFailure), (7, .recordFailure),
      (12, .waitTime), (20, .tokens), (21, .recordFailure), (22, .waitTime), (25, .recordSuccess)]
    (new 3 10 5).results calls = eagerResults (.full : Eager 3 10) 5 calls ∧
      (new 3 10 5).results calls =
        [none, none, none, some 3, some 1, none, some 3, none] := by
  intro calls
  have hsorted : (5 :: calls.map Prod.fst).Pairwise (· ≤ ·) := by decide
  exact ⟨(results_eq_eager (by decide) (by decide) hsorted).1, by decide⟩

end ReconnectBudget

end Buddy3dProxy
