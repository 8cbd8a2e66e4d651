import Buddy3dProxy.RateLimit
import Buddy3dProxy.Transition.Pool
import Buddy3dProxy.Transition.System

/-!
# Permits in a window

Any number of callers take permits and complete them, in any order. How many of the permits taken in a
window of time may end with an error of the server or the network.
-/

namespace Buddy3dProxy.RateLimiter

open Transition

inductive PermitStatus where
  | inUse
  | completed (outcome : Outcome)
  /-- Dropped without `complete`. -/
  | dropped
  deriving DecidableEq, Repr

/-- A permit that was handed out. -/
structure Permit where
  acquiredAt : Nat
  /-- The tokens that were then neither in the bucket nor out with a permit in use. -/
  missing : Nat
  /-- More than a full bucket was out when it was handed out, or a refill since has come too early for
  it. -/
  overdrawn : Bool
  status : PermitStatus
  deriving DecidableEq, Repr

def Permit.inUse (p : Permit) : Bool := p.status = .inUse

def Permit.failed (p : Permit) : Bool := p.status = .completed .serverOrNetworkError

/-- Taken from `s` to `t`. -/
def Permit.takenIn (s t : Nat) (p : Permit) : Bool := s ≤ p.acquiredAt ∧ p.acquiredAt ≤ t

/-- The periods since the last refill, as far as there is room for their tokens. -/
def Inner.earned {l : RateLimiter} (inner : l.Inner) (now : Nat) : Nat :=
  min ((now - inner.lastRefill) / l.refillPeriod) (l.cap.toNat - inner.tokens)

/-- A limiter and the permits it has handed out. -/
structure Limited (l : RateLimiter) where
  now : Nat
  inner : l.Inner
  permits : List Permit
  deriving DecidableEq

inductive LimiterStep where
  | elapse (d : Nat)
  /-- A turn of the loop in `acquire`. -/
  | acquire
  | complete (i : Nat) (outcome : Outcome)
  | drop (i : Nat)
  | tokens
  deriving DecidableEq, Repr

namespace Limited

variable {l : RateLimiter}

def new (l : RateLimiter) (created : Nat) : Limited l := ⟨created, l.new created, []⟩

/-- The permits in use. -/
def used (s : Limited l) : Nat := s.permits.countP Permit.inUse

/-- A refill now adds no more tokens than were missing when the permit was handed out, and one for each
whole period since. -/
def allows (s : Limited l) (p : Permit) : Bool :=
  s.inner.earned s.now ≤ p.missing + (s.now - p.acquiredAt) / l.refillPeriod

/-- The refill with which `acquire` and `tokens` begin. -/
def refill (s : Limited l) : Limited l where
  now := s.now
  inner := s.inner.tick s.now
  permits := s.permits.map fun p => { p with overdrawn := p.overdrawn || !s.allows p }

/-- A permit is handed out for a token taken from the bucket. -/
def handOut (s : Limited l) : Limited l where
  now := s.now
  inner := (s.inner.take s.now).2
  permits := s.permits ++
    [⟨s.now, l.cap.toNat - (s.inner.tokens + s.used), l.cap.toNat < s.inner.tokens + s.used, .inUse⟩]

/-- A turn of the loop in `acquire`: the bucket is refilled, and if there is a token, a permit is handed
out. -/
def acquire (s : Limited l) : Limited l :=
  if 0 < s.refill.inner.tokens then s.refill.handOut else s.refill

/-- A permit gets another status. -/
def put (s : Limited l) (i : Nat) (p : Permit) (status : PermitStatus) (inner : l.Inner) : Limited l :=
  ⟨s.now, inner, s.permits.set i { p with status }⟩

/-- A permit that is in use is completed or dropped. -/
def settle (s : Limited l) (i : Nat) (status : PermitStatus) (inner : l.Inner) : Option (Limited l) :=
  match s.permits[i]? with
  | some p => if p.inUse then some (s.put i p status inner) else none
  | none => none

def step (s : Limited l) : LimiterStep → Option (Limited l)
  | .elapse d => some { s with now := s.now + d }
  | .acquire => some s.acquire
  | .complete i outcome => s.settle i (.completed outcome) (s.inner.complete outcome)
  | .drop i => s.settle i .dropped s.inner
  | .tokens => some s.refill

/-- The permits taken from `a` to `b` that ended with an error of the server or the network. -/
def failedIn (a b : Nat) (s : Limited l) : Nat :=
  s.permits.countP fun p => p.takenIn a b && p.failed

/-- No permit ends with an error that is overdrawn, and no refill comes too early for one that did. -/
def covered (s : Limited l) : LimiterStep → Bool
  | .complete i .serverOrNetworkError => s.permits[i]?.all fun p => !p.overdrawn
  | .acquire | .tokens => s.permits.all fun p => !p.failed || s.allows p
  | _ => true

end Limited

/-- The runs of a limiter. -/
def limiterSystem (l : RateLimiter) (created : Nat) : System (Limited l) LimiterStep :=
  ⟨.new l created, Limited.step⟩

/-! ## What a refill adds -/

namespace Inner

variable {l : RateLimiter}

theorem earned_mul_le (inner : l.Inner) (now : Nat) :
    l.refillPeriod * inner.earned now ≤ now - inner.lastRefill :=
  Nat.le_trans (Nat.mul_le_mul_left _ (Nat.min_le_left _ _)) (Nat.mul_div_le _ _)

/-- A refill turns time into tokens, and may lose some of it. -/
theorem tick_tokens_le (inner : l.Inner) (now : Nat) :
    (inner.tick now).tokens ≤ inner.tokens + inner.earned now := by
  by_cases hq : inner.Quiet now
  · rw [tick_of_quiet hq]
    exact Nat.le_add_right _ _
  · rw [(tick_of_not_quiet hq).1, earned]
    have hle := inner.tokens_le
    generalize (now - inner.lastRefill) / l.refillPeriod = periods
    omega

theorem complete_lastRefill (inner : l.Inner) (outcome : Outcome) :
    (inner.complete outcome).lastRefill = inner.lastRefill := by
  unfold complete refund
  split
  · rfl
  · split <;> rfl

theorem complete_tokens_le (inner : l.Inner) (outcome : Outcome) :
    (inner.complete outcome).tokens ≤
      inner.tokens + if outcome = .serverOrNetworkError then 0 else 1 := by
  unfold complete refund
  split
  · exact Nat.le_refl _
  · split
    · exact Nat.le_refl _
    · exact Nat.le_succ _

end Inner

/-! ## The account of a permit -/

namespace Limited

variable {l : RateLimiter} {s s' : Limited l} {i : Nat} {p : Permit}

/-- It has ended with an error, or may yet do so. -/
def Exposed (p : Permit) : Prop := p.overdrawn = false ∧ (p.inUse = true ∨ p.failed = true)

/-- The failed permits among those from the `i`-th on. -/
def failedFrom (s : Limited l) (i : Nat) : Nat := (s.permits.drop i).countP Permit.failed

/-- Those of them taken until `b` that have failed or are in use. -/
def spentFrom (s : Limited l) (i b : Nat) : Nat :=
  (s.permits.drop i).countP fun p => p.acquiredAt ≤ b && (p.inUse || p.failed)

/-- The permits that have failed from the `i`-th on, all permits in use and the tokens. -/
def total (s : Limited l) (i : Nat) : Nat := s.failedFrom i + s.used + s.inner.tokens

/-- What has failed since the `i`-th permit, what is in use and what is in the bucket is paid for: until
the next refill by a full bucket, less what was missing, and then by a full bucket and the time since. -/
def Paid (s : Limited l) (i : Nat) (p : Permit) : Prop :=
  s.inner.lastRefill ≤ p.acquiredAt ∧ s.total i + p.missing ≤ l.cap.toNat ∨
    p.acquiredAt ≤ s.inner.lastRefill ∧ l.refillPeriod * s.total i + (s.now - s.inner.lastRefill) ≤
      l.refillPeriod * l.cap.toNat + (s.now - p.acquiredAt)

/-- The account of the `i`-th permit: it is settled for every window that the permit begins. -/
structure Account (s : Limited l) (i : Nat) (p : Permit) : Prop where
  paid : s.Paid i p
  window : ∀ b, p.acquiredAt ≤ b →
    l.refillPeriod * s.spentFrom i b ≤ l.refillPeriod * l.cap.toNat + (b - p.acquiredAt)

structure Inv (s : Limited l) : Prop where
  clock : s.inner.lastRefill ≤ s.now
  past : ∀ p ∈ s.permits, p.acquiredAt ≤ s.now
  sound : ∀ p ∈ s.permits, p.failed = true → p.overdrawn = false
  account : ∀ i p, s.permits[i]? = some p → Exposed p → s.Account i p

theorem spentFrom_le (s : Limited l) (i b : Nat) : s.spentFrom i b ≤ s.failedFrom i + s.used := by
  have hused : (s.permits.drop i).countP Permit.inUse ≤ s.used :=
    (List.drop_sublist i s.permits).countP_le
  refine Nat.le_trans ?_ (Nat.add_le_add_left hused _)
  unfold spentFrom failedFrom
  induction s.permits.drop i with
  | nil => exact Nat.zero_le _
  | cons p ps ih =>
    simp only [List.countP_cons]
    cases p.inUse <;> cases p.failed <;> cases decide (p.acquiredAt ≤ b) <;> simp <;> omega

/-- What is paid for pays for every window that has not ended. -/
theorem Paid.window (h : s.Paid i p) {b : Nat} (hb : s.now ≤ b) :
    l.refillPeriod * s.spentFrom i b ≤ l.refillPeriod * l.cap.toNat + (b - p.acquiredAt) := by
  have hspent : s.spentFrom i b ≤ s.total i :=
    Nat.le_trans (s.spentFrom_le i b) (Nat.le_add_right _ _)
  have hmul := Nat.mul_le_mul_left l.refillPeriod hspent
  rcases h with ⟨-, hpaid⟩ | ⟨-, hpaid⟩
  · have hcap := Nat.mul_le_mul_left l.refillPeriod (Nat.le_trans (Nat.le_add_right _ _) hpaid)
    omega
  · omega

/-- Nothing is paid for twice: what is paid for stays so when less is out. -/
theorem Paid.mono (h : s.Paid i p) (hnow : s'.now = s.now)
    (hclock : s'.inner.lastRefill = s.inner.lastRefill) (htotal : s'.total i ≤ s.total i) :
    s'.Paid i p := by
  have hmul := Nat.mul_le_mul_left l.refillPeriod htotal
  unfold Paid at h ⊢
  rw [hnow, hclock]
  rcases h with ⟨hcycle, hpaid⟩ | ⟨hcycle, hpaid⟩
  · exact .inl ⟨hcycle, by omega⟩
  · exact .inr ⟨hcycle, by omega⟩

/-! ## What each step does to it -/

theorem Inv.new (l : RateLimiter) (created : Nat) : (Limited.new l created).Inv where
  clock := Nat.le_refl _
  past := by simp [Limited.new]
  sound := by simp [Limited.new]
  account := by simp [Limited.new]

theorem Inv.elapse (h : s.Inv) (d : Nat) : Inv { s with now := s.now + d } where
  clock := Nat.le_add_right_of_le h.clock
  past := fun p hp => Nat.le_add_right_of_le (h.past p hp)
  sound := h.sound
  account := by
    intro i p hp hexposed
    obtain ⟨hpaid, hwindow⟩ := h.account i p hp hexposed
    refine ⟨?_, hwindow⟩
    have hclock := h.clock
    have hpast := h.past p (List.mem_of_getElem? hp)
    rcases hpaid with ⟨hcycle, hpaid⟩ | ⟨hcycle, hpaid⟩
    · exact .inl ⟨hcycle, hpaid⟩
    · refine .inr ⟨hcycle, ?_⟩
      show l.refillPeriod * s.total i + (s.now + d - s.inner.lastRefill) ≤
        l.refillPeriod * l.cap.toNat + (s.now + d - p.acquiredAt)
      omega

/-- A refill that comes in time for the permit: the tokens it adds were missing, or are earned since. -/
theorem Paid.refill (h : s.Paid i p) (hpast : p.acquiredAt ≤ s.now) (hallows : s.allows p = true)
    (htotal : s'.total i + s.inner.tokens ≤ s.total i + (s.inner.tick s.now).tokens)
    (hnow : s'.now = s.now) (hinner : s'.inner = s.inner.tick s.now) : s'.Paid i p := by
  by_cases hq : s.inner.Quiet s.now
  · rw [Inner.tick_of_quiet hq] at hinner htotal
    exact h.mono hnow (by rw [hinner]) (by omega)
  have hadded := s.inner.tick_tokens_le s.now
  have hsum : s'.total i ≤ s.total i + s.inner.earned s.now := by omega
  refine .inr ?_
  rw [hnow, hinner, (Inner.tick_of_not_quiet hq).2, Nat.sub_self, Nat.add_zero]
  refine ⟨hpast, ?_⟩
  have hmul := Nat.mul_le_mul_left l.refillPeriod hsum
  rw [Nat.mul_add] at hmul
  rcases h with ⟨-, hpaid⟩ | ⟨-, hpaid⟩
  · have hdue : s.inner.earned s.now ≤ p.missing + (s.now - p.acquiredAt) / l.refillPeriod :=
      of_decide_eq_true hallows
    have hall := Nat.mul_le_mul_left l.refillPeriod
      (show s'.total i ≤ l.cap.toNat + (s.now - p.acquiredAt) / l.refillPeriod by omega)
    have hdiv := Nat.mul_div_le (s.now - p.acquiredAt) l.refillPeriod
    rw [Nat.mul_add] at hall
    omega
  · have hearned := s.inner.earned_mul_le s.now
    omega

theorem failedFrom_refill (s : Limited l) (i : Nat) : s.refill.failedFrom i = s.failedFrom i := by
  rw [failedFrom, Limited.refill, ← List.map_drop, List.countP_map]
  rfl

theorem used_refill (s : Limited l) : s.refill.used = s.used := by
  rw [used, Limited.refill, List.countP_map]
  rfl

theorem spentFrom_refill (s : Limited l) (i b : Nat) : s.refill.spentFrom i b = s.spentFrom i b := by
  rw [spentFrom, Limited.refill, ← List.map_drop, List.countP_map]
  rfl

theorem Inv.refill (h : s.Inv) (hok : s.permits.all (fun p => !p.failed || s.allows p) = true) :
    s.refill.Inv where
  clock := Inner.tick_lastRefill_le h.clock
  past := by
    intro p hp
    obtain ⟨q, hq, rfl⟩ := List.mem_map.mp hp
    exact h.past q hq
  sound := by
    intro p hp hfailed
    obtain ⟨q, hq, rfl⟩ := List.mem_map.mp hp
    have hfailed : q.failed = true := hfailed
    have hallows := List.all_eq_true.mp hok q hq
    rw [hfailed, Bool.not_true, Bool.false_or] at hallows
    simp [h.sound q hq hfailed, hallows]
  account := by
    intro i p hp ⟨hsound, hexposed⟩
    obtain ⟨q, hq, rfl⟩ := by simpa [Limited.refill] using hp
    obtain ⟨hsound, hallows⟩ := Bool.or_eq_false_iff.mp hsound
    have hallows : s.allows q = true := by simpa using hallows
    obtain ⟨hpaid, hwindow⟩ := h.account i q hq ⟨hsound, hexposed⟩
    refine ⟨?_, fun b hb => ?_⟩
    · have hpast := h.past q (List.mem_of_getElem? hq)
      have hsame : s.refill.total i + s.inner.tokens = s.total i + (s.inner.tick s.now).tokens := by
        rw [total, total, failedFrom_refill, used_refill]
        show _ + (s.inner.tick s.now).tokens + _ = _
        omega
      exact hpaid.refill hpast hallows hsame.le rfl rfl
    · rw [spentFrom_refill]
      exact hwindow b hb

/-- A permit is handed out: a token is in use instead. -/
theorem Inv.handOut (h : s.Inv) (htoken : 0 < s.inner.tokens) : s.handOut.Inv := by
  obtain ⟨htokens, hclock⟩ := Inner.take_snd s.inner s.now
  have htokens : s.handOut.inner.tokens = s.inner.tokens - 1 := htokens
  have hclock : s.handOut.inner.lastRefill = s.inner.lastRefill := hclock
  have hused : s.handOut.used = s.used + 1 := by
    simp [used, Limited.handOut, List.countP_append, Permit.inUse]
  have hfailed (i : Nat) : s.handOut.failedFrom i = s.failedFrom i := Pool.countP_drop_append rfl
  refine ⟨hclock ▸ h.clock, Pool.forall_append h.past (Nat.le_refl _), ?_, ?_⟩
  · exact Pool.forall_append h.sound fun hfail => by cases hfail
  intro i p hp hexposed
  have hpaid : s.handOut.Paid i p := by
    rcases Pool.getElem?_append_cases hp with hold | ⟨rfl, rfl⟩
    · refine (h.account i p hold hexposed).paid.mono rfl hclock ?_
      rw [total, total, hfailed, hused, htokens]
      omega
    · -- the new permit: what is out with it and what was missing are a full bucket
      have hfull : ¬ l.cap.toNat < s.inner.tokens + s.used := of_decide_eq_false hexposed.1
      have hnone : s.failedFrom s.permits.length = 0 := by
        rw [failedFrom, List.drop_length, List.countP_nil]
      refine .inl ⟨hclock.le.trans h.clock, ?_⟩
      show s.handOut.total _ + (l.cap.toNat - (s.inner.tokens + s.used)) ≤ _
      rw [total, hfailed, hnone, hused, htokens]
      omega
  refine ⟨hpaid, fun b hb => ?_⟩
  by_cases hnow : s.now ≤ b
  · exact hpaid.window hnow
  · have hsame : s.handOut.spentFrom i b = s.spentFrom i b :=
      Pool.countP_drop_append (by simp only [decide_eq_false hnow, Bool.false_and])
    rcases Pool.getElem?_append_cases hp with hold | ⟨-, rfl⟩
    · rw [hsame]
      exact (h.account i p hold hexposed).window b hb
    · exact absurd hb hnow

section Put

variable {status : PermitStatus} {inner : l.Inner}

theorem used_put (hp : s.permits[i]? = some p) (huse : p.inUse = true) (hstatus : status ≠ .inUse) :
    (s.put i p status inner).used + 1 = s.used :=
  Pool.countP_set_lose hp huse (decide_eq_false hstatus)

/-- What is out does not grow: an error keeps its token, and else at most one comes back. -/
theorem total_put (hp : s.permits[i]? = some p) (huse : p.inUse = true) (hstatus : status ≠ .inUse)
    (htokens : inner.tokens ≤
      s.inner.tokens + if status = .completed .serverOrNetworkError then 0 else 1) (k : Nat) :
    (s.put i p status inner).total k ≤ s.total k := by
  have hused : (s.put i p status inner).used + 1 = s.used := used_put hp huse hstatus
  have hset : (s.put i p status inner).failedFrom k ≤ s.failedFrom k +
      if Permit.failed { p with status } = true ∧ p.failed = false then 1 else 0 :=
    Pool.countP_drop_set_le hp
  unfold total
  show _ + _ + inner.tokens ≤ _
  by_cases herror : status = .completed .serverOrNetworkError
  · rw [if_pos herror] at htokens
    split at hset <;> omega
  · have hnot : Permit.failed { p with status } = false := decide_eq_false herror
    rw [if_neg herror] at htokens
    rw [hnot, if_neg (by simp)] at hset
    omega

/-- A permit that fails was in use before. -/
theorem spentFrom_put (hp : s.permits[i]? = some p) (huse : p.inUse = true) (k b : Nat) :
    (s.put i p status inner).spentFrom k b ≤ s.spentFrom k b := by
  refine Nat.le_trans (Pool.countP_drop_set_le hp) ?_
  rw [if_neg, Nat.add_zero]
  · exact Nat.le_refl _
  · rw [huse, Bool.true_or, Bool.and_true]
    rintro ⟨hnew, hold⟩
    rw [show decide (p.acquiredAt ≤ b) = false from hold, Bool.false_and] at hnew
    cases hnew

/-- A permit in use is completed or dropped. -/
theorem Inv.put (h : s.Inv) (hp : s.permits[i]? = some p) (huse : p.inUse = true)
    (hstatus : status ≠ .inUse) (hclock : inner.lastRefill = s.inner.lastRefill)
    (htokens : inner.tokens ≤
      s.inner.tokens + if status = .completed .serverOrNetworkError then 0 else 1)
    (hsound : status = .completed .serverOrNetworkError → p.overdrawn = false) :
    (s.put i p status inner).Inv := by
  have hpast := h.past p (List.mem_of_getElem? hp)
  refine ⟨hclock.le.trans h.clock, Pool.forall_set h.past hpast, ?_, ?_⟩
  · exact Pool.forall_set h.sound fun hfail => hsound (of_decide_eq_true hfail)
  intro k q hq hexposed
  have hold : s.Account k q := by
    rcases Pool.getElem?_set_cases hq with ⟨rfl, rfl⟩ | ⟨-, hold⟩
    · obtain ⟨hpaid, hwindow⟩ := h.account k p hp ⟨hexposed.1, .inl huse⟩
      exact ⟨hpaid, hwindow⟩
    · exact h.account k q hold hexposed
  refine ⟨hold.paid.mono rfl hclock (total_put hp huse hstatus htokens k), fun b hb => ?_⟩
  exact Nat.le_trans (Nat.mul_le_mul_left _ (spentFrom_put hp huse k b)) (hold.window b hb)

end Put

theorem of_settle {status : PermitStatus} {inner : l.Inner}
    (hs : s.settle i status inner = some s') :
    ∃ p, s.permits[i]? = some p ∧ p.inUse = true ∧ s' = s.put i p status inner := by
  unfold Limited.settle at hs
  split at hs
  · rename_i p hp
    split at hs
    · rename_i huse
      exact ⟨p, hp, huse, (Option.some.inj hs).symm⟩
    · cases hs
  · cases hs

theorem Inv.step (h : s.Inv) {action : LimiterStep} (hok : s.covered action = true)
    (hs : s.step action = some s') : s'.Inv := by
  cases action with
  | elapse d =>
    obtain rfl := Option.some.inj hs
    exact h.elapse d
  | acquire =>
    obtain rfl := Option.some.inj hs
    unfold Limited.acquire
    by_cases htoken : 0 < s.refill.inner.tokens
    · rw [if_pos htoken]
      exact (h.refill hok).handOut htoken
    · rw [if_neg htoken]
      exact h.refill hok
  | tokens =>
    obtain rfl := Option.some.inj hs
    exact h.refill hok
  | complete i outcome =>
    obtain ⟨p, hp, huse, rfl⟩ := of_settle hs
    refine h.put hp huse (by simp) (s.inner.complete_lastRefill outcome) ?_ fun herror => ?_
    · simpa using s.inner.complete_tokens_le outcome
    · obtain rfl : outcome = .serverOrNetworkError := by simpa using herror
      simpa [covered, hp] using hok
  | drop i =>
    obtain ⟨p, hp, huse, rfl⟩ := of_settle hs
    exact h.put hp huse (by simp) rfl (Nat.le_add_right _ _) fun herror => by cases herror

/-- The failed permits of a window are at most as many as a full bucket and the whole periods in it: the
account of the first of them is settled. -/
theorem Inv.failedIn_le (h : s.Inv) (a b : Nat) :
    s.failedIn a b ≤ l.cap.toNat + (b - a) / l.refillPeriod := by
  rcases Nat.eq_zero_or_pos (s.failedIn a b) with hzero | hpos
  · rw [hzero]
    exact Nat.zero_le _
  obtain ⟨i, p, hp, hfirst, hcount⟩ := Pool.exists_first hpos
  obtain ⟨htaken, hfailed⟩ := Bool.and_eq_true_iff.mp hfirst
  obtain ⟨hfrom, hto⟩ : a ≤ p.acquiredAt ∧ p.acquiredAt ≤ b := of_decide_eq_true htaken
  have hspent : s.failedIn a b ≤ s.spentFrom i b := by
    rw [failedIn, ← hcount]
    refine List.countP_mono_left fun q _ hq => ?_
    obtain ⟨hin, hfail⟩ := Bool.and_eq_true_iff.mp hq
    have hin : a ≤ q.acquiredAt ∧ q.acquiredAt ≤ b := of_decide_eq_true hin
    simp [hin.2, hfail]
  have hsound := h.sound p (List.mem_of_getElem? hp) hfailed
  have hwindow := (h.account i p hp ⟨hsound, .inr hfailed⟩).window b hto
  have hmul := Nat.mul_le_mul_left l.refillPeriod hspent
  have hrest : s.failedIn a b - l.cap.toNat ≤ (b - a) / l.refillPeriod := by
    rw [Nat.le_div_iff_mul_le Inner.refillPeriod_pos, Nat.sub_mul, Nat.mul_comm (s.failedIn a b),
      Nat.mul_comm l.cap.toNat]
    omega
  omega

end Limited

/-- As long as only a permit ends with an error of the server or the network that was handed out with at
most a full bucket out, and for which no refill has come too early, and no refill comes too early for one
that has, at most as many permits of a window do as a full bucket and the whole periods in it. -/
theorem failedIn_le_of_covered {l : RateLimiter} {created : Nat} {s : Limited l}
    (h : ReachableWhere (limiterSystem l created) (fun s action => s.covered action = true) s)
    (a b : Nat) : s.failedIn a b ≤ l.cap.toNat + (b - a) / l.refillPeriod := by
  have hinv : s.Inv := h.induct (.new l created) fun _ _ _ _ hok hs hi => hi.step hok hs
  exact hinv.failedIn_le a b

/-- A bucket that was full for a minute gives a permit that fails, and three more when another minute is
over. -/
theorem failedIn_le_of_covered_minute : ∃ s, Reachable (limiterSystem standard 0) s ∧
    s.failedIn 60000000000 120000000000 = 4 ∧ s.failedIn 60000000000 120000000000 ≤
      standard.cap.toNat + (120000000000 - 60000000000) / standard.refillPeriod := by
  obtain ⟨s, hr, hp⟩ := exists_reachableWhere_of_runWhere (limiterSystem standard 0) Limited.covered
    [.elapse 60000000000, .acquire, .complete 0 .serverOrNetworkError, .elapse 60000000000, .tokens,
      .acquire, .acquire, .acquire, .complete 1 .serverOrNetworkError,
      .complete 3 .serverOrNetworkError, .complete 2 .serverOrNetworkError]
    (fun s => decide (s.failedIn 60000000000 120000000000 = 4)) (by decide +kernel)
  exact ⟨s, hr.reachable, of_decide_eq_true hp, failedIn_le_of_covered hr 60000000000 120000000000⟩

/-- A full bucket was left alone for a minute: a fourth permit is there at once. -/
theorem not_failedIn_le_idle : ¬ ∀ s, Reachable (limiterSystem standard 0) s → ∀ a b,
    s.failedIn a b ≤ standard.cap.toNat + (b - a) / standard.refillPeriod := by
  intro hall
  obtain ⟨s, hr, hp⟩ := exists_reachable_of_run (limiterSystem standard 0)
    [.elapse 60000000000, .acquire, .acquire, .acquire, .acquire, .complete 0 .serverOrNetworkError,
      .complete 1 .serverOrNetworkError, .complete 2 .serverOrNetworkError,
      .complete 3 .serverOrNetworkError]
    (fun s => decide (s.failedIn 60000000000 60000000000 = 4)) (by decide +kernel)
  have hle := hall s hr 60000000000 60000000000
  rw [of_decide_eq_true hp] at hle
  exact absurd hle (by decide)

end Buddy3dProxy.RateLimiter
