import Buddy3dProxy.Supervisor.Calls
import Buddy3dProxy.Transition.Observed

/-!
# The pace of a watchdog

A watchdog whose attempts keep failing sleeps between them, each time for the longer of its backoff
and the budget's wait. So the times of its attempts are spaced by the schedule of the backoff, whatever
the other tasks do, and no sleep is longer than the refill period of the budget.
-/

namespace Buddy3dProxy

namespace ExpBackoff

/-- The schedule after `n` delays. -/
def after (b : ExpBackoff) : Nat → ExpBackoff
  | 0 => b
  | n + 1 => (b.after n).next

/-- The shortest current delay, in nanoseconds. -/
def least (b : ExpBackoff) : Nat := 800 * b.raw * nanosPerMilli

/-- The shortest total of `n` delays. -/
def leastTotal (b : ExpBackoff) : Nat → Nat
  | 0 => 0
  | n + 1 => b.leastTotal n + (b.after n).least

theorem after_next (b : ExpBackoff) (n : Nat) : b.next.after n = b.after (n + 1) := by
  induction n with
  | zero => rfl
  | succ n ih => simp only [after, ih]

theorem leastTotal_next (b : ExpBackoff) (n : Nat) :
    b.least + b.next.leastTotal n = b.leastTotal (n + 1) := by
  induction n with
  | zero => simp [leastTotal, after]
  | succ n ih =>
    show b.least + (b.next.leastTotal n + (b.next.after n).least) =
      b.leastTotal (n + 1) + (b.after (n + 1)).least
    rw [after_next, ← ih]
    omega

theorem raw_le (b : ExpBackoff) : b.raw ≤ capSecs := by
  unfold raw
  rcases Nat.lt_or_ge b.attempt baseSecs.length with hlt | hge
  · rw [List.getElem?_eq_getElem hlt, Option.getD_some]
    have hall : ∀ x ∈ baseSecs, x ≤ capSecs := by decide
    exact hall _ (List.getElem_mem hlt)
  · rw [List.getElem?_eq_none hge]
    exact Nat.le_refl _

/-- `times`, with the first a delay of `b` after `start` and each a further delay after the one before. -/
def Spaced (b : ExpBackoff) (start : Nat) : List Nat → Prop
  | [] => True
  | t :: times => start + b.least ≤ t ∧ b.next.Spaced t times

variable {b : ExpBackoff} {start t : Nat} {times : List Nat}

theorem Spaced.snoc (h : b.Spaced start times)
    (ht : times.getLast?.getD start + (b.after times.length).least ≤ t) :
    b.Spaced start (times ++ [t]) := by
  induction times generalizing b start with
  | nil => exact ⟨ht, trivial⟩
  | cons u us ih =>
    refine ⟨h.1, ih h.2 ?_⟩
    rw [List.getLast?_cons, Option.getD_some, List.length_cons, ← after_next] at ht
    exact ht

theorem Spaced.leastTotal_le (h : b.Spaced start times) {n : Nat} (ht : times[n]? = some t) :
    start + b.leastTotal (n + 1) ≤ t := by
  induction times generalizing b start n with
  | nil => cases ht
  | cons u us ih =>
    obtain ⟨hu, hus⟩ := h
    cases n with
    | zero =>
      obtain rfl := Option.some.inj ht
      show start + (0 + b.least) ≤ u
      omega
    | succ n =>
      have hrest := ih hus ht
      rw [← leastTotal_next]
      omega

end ExpBackoff

namespace ReconnectBudget

theorem waitTime_le (b : ReconnectBudget) (now : Nat) : (b.waitTime now).1 ≤ b.refillPeriod := by
  show (if (b.refill now).tokens > 0 then 0
    else (b.refill now).refillPeriod - (now - (b.refill now).lastRefill)) ≤ b.refillPeriod
  rw [refill_refillPeriod]
  split
  · exact Nat.zero_le _
  · exact Nat.sub_le _ _

end ReconnectBudget

namespace Supervisor

open Transition

variable {s s' : Sys} {a : Action} {w : Nat}

/-- The time of an attempt of watchdog `w` that starts at a step. -/
def Sys.attemptTimes (w : Nat) (s : Sys) : Action → List Nat
  | .watchdogConnect k _ => if k = w then [s.now] else []
  | _ => []

/-- No attempt of watchdog `w` succeeds. -/
def Sys.keepsFailing (w : Nat) (_ : Sys) (a : Action) : Bool := a != .watchdogResult w .ok

/-- A watchdog that retries since the backoff `b`, with `n` attempts behind it and `last` the time of
the last one. -/
def Watchdog.Retrying (b : ExpBackoff) (n last now : Nat) (d : Watchdog) : Prop :=
  match d.pc with
  | .backoff | .connecting _ => d.backoff = b.after n ∧ last ≤ now
  | .sleeping wake => d.backoff = (b.after n).next ∧ last + (b.after n).least ≤ wake
  | .recheckViewers | .checkFailed => d.backoff = (b.after n).next ∧ last + (b.after n).least ≤ now
  | .exited => True
  | .awaitEnded _ | .checkViewers | .connected _ => False

theorem Watchdog.Retrying.later {b : ExpBackoff} {n last now now' : Nat} {d : Watchdog}
    (h : d.Retrying b n last now) (hnow : now ≤ now') : d.Retrying b n last now' := by
  unfold Retrying at h ⊢
  cases hpc : d.pc with
  | sleeping => simpa only [hpc] using h
  | exited => trivial
  | awaitEnded | checkViewers | connected =>
    rw [hpc] at h
    exact h.elim
  | backoff | connecting | recheckViewers | checkFailed =>
    simp only [hpc] at h ⊢
    exact ⟨h.1, h.2.trans hnow⟩

/-- The attempts of watchdog `w` since it stood at `start` with the backoff `b`. -/
def Paced (b : ExpBackoff) (start w : Nat) (times : List Nat) (t : Sys) : Prop :=
  b.Spaced start times ∧ ∃ d, t.watchdogs[w]? = some d ∧
    d.Retrying b times.length (times.getLast?.getD start) t.now

section Step

variable {b : ExpBackoff} {start : Nat} {times : List Nat}

/-- Another step leaves the watchdog as it is. -/
theorem Paced.keep (h : Paced b start w times s) (hw : s'.watchdogs[w]? = s.watchdogs[w]?)
    (hnow : s.now ≤ s'.now) : Paced b start w (times ++ []) s' := by
  obtain ⟨hspaced, d, hd, hretrying⟩ := h
  rw [List.append_nil]
  exact ⟨hspaced, d, hw.trans hd, hretrying.later hnow⟩

/-- A step moves watchdog `k`; it is enough to look at the case that it is the one observed. -/
theorem Paced.move (h : Paced b start w times s) {k : Nat} {d d' : Watchdog}
    (hk : s.watchdogs[k]? = some d) (hset : s'.watchdogs = s.watchdogs.set k d')
    (hnow : s'.now = s.now)
    (hd' : k = w → d.Retrying b times.length (times.getLast?.getD start) s.now →
      d'.Retrying b times.length (times.getLast?.getD start) s.now) :
    Paced b start w (times ++ []) s' := by
  obtain ⟨hspaced, e, he, hretrying⟩ := h
  rw [List.append_nil]
  refine ⟨hspaced, ?_⟩
  rw [hset, hnow]
  by_cases hkw : k = w
  · subst hkw
    obtain rfl : e = d := Option.some.inj (he.symm.trans hk)
    exact ⟨d', Pool.getElem?_set_self hk, hd' rfl hretrying⟩
  · exact ⟨e, Pool.getElem?_set_of_ne hkw he, hretrying⟩

theorem paced_step (h : Paced b start w times s) (hs : Step s a s')
    (ha : a ≠ .watchdogResult w .ok) : Paced b start w (times ++ s.attemptTimes w a) s' := by
  cases hs with
  | spawnWatchdog =>
    obtain ⟨d, hd, -⟩ := h.2
    exact h.keep ((Pool.getElem?_append_of_some hd).trans hd.symm) (Nat.le_refl _)
  | @watchdogSleep k millis d hk hpc hm =>
    refine h.move hk rfl rfl fun _ hd => ?_
    simp only [Watchdog.Retrying, hpc] at hd
    obtain ⟨hbackoff, hlast⟩ := hd
    refine ⟨congrArg ExpBackoff.next hbackoff, ?_⟩
    have hleast : (b.after times.length).least ≤ millis * nanosPerMilli := by
      rw [← hbackoff]
      exact Nat.mul_le_mul_right _ (of_decide_eq_true (Bool.and_eq_true_iff.mp hm).1)
    have hmax := Nat.le_max_left (millis * nanosPerMilli) (s.reconnectBudget.waitTime s.now).1
    show _ ≤ s.now + max (millis * nanosPerMilli) (s.reconnectBudget.waitTime s.now).1
    omega
  | @watchdogConnect k d params hk hpc hf =>
    by_cases hkw : k = w
    · -- the attempt that is observed
      subst hkw
      obtain ⟨hspaced, e, he, hretrying⟩ := h
      obtain rfl : e = d := Option.some.inj (he.symm.trans hk)
      simp only [Watchdog.Retrying, hpc] at hretrying
      obtain ⟨hbackoff, hdue⟩ := hretrying
      have htimes : s.attemptTimes k (.watchdogConnect k params) = [s.now] := if_pos rfl
      rw [htimes]
      refine ⟨hspaced.snoc hdue, { e with pc := .connecting s.sessions.length },
        Pool.getElem?_set_self hk, ?_⟩
      rw [List.length_append, List.getLast?_append]
      exact ⟨hbackoff, Nat.le_refl _⟩
    · have htimes : s.attemptTimes w (.watchdogConnect k params) = [] := if_neg hkw
      rw [htimes]
      exact h.move hk rfl rfl fun he => absurd he hkw
  | watchdogOk hk hpc => exact h.move hk rfl rfl fun he => absurd (by rw [he]) ha
  | watchdogErr hk hpc =>
    refine h.move hk rfl rfl fun _ hd => ?_
    simpa only [Watchdog.Retrying, hpc] using hd
  | wakeSame hk hpc ht =>
    refine h.move hk rfl rfl fun _ hd => ?_
    simp only [Watchdog.Retrying, hpc] at hd
    exact ⟨hd.1, hd.2.trans ht⟩
  | keepRetrying hk hpc =>
    refine h.move hk rfl rfl fun _ hd => ?_
    simpa only [Watchdog.Retrying, hpc] using hd
  | sawEnded hk hpc | startRetrying hk hpc | reinstall hk hpc =>
    refine h.move hk rfl rfl fun _ hd => ?_
    simp only [Watchdog.Retrying, hpc] at hd
  | sawClosed hk | exitNoViewers hk | wakeOther hk | sawFailed hk | discard hk =>
    exact h.move hk rfl rfl fun _ _ => trivial
  | tick => exact h.keep rfl (Nat.le_add_right _ _)
  | _ => exact h.keep rfl (Nat.le_refl _)

end Step

/-! ## The longest sleep -/

/-- The budget keeps its period, and no watchdog sleeps for longer. -/
structure Sys.Rested (s : Sys) : Prop where
  period : s.reconnectBudget.refillPeriod = ReconnectBudget.defaultRefillPeriod
  wake : ∀ d ∈ s.watchdogs, ∀ u : Nat, d.pc = .sleeping u →
    u ≤ s.now + ReconnectBudget.defaultRefillPeriod

theorem Sys.Rested.of_eq (h : s.Rested) (hwatchdogs : s'.watchdogs = s.watchdogs)
    (hnow : s.now ≤ s'.now)
    (hperiod : s'.reconnectBudget.refillPeriod = s.reconnectBudget.refillPeriod) : s'.Rested := by
  refine ⟨hperiod.trans h.period, fun d hd u hu => ?_⟩
  have hle := h.wake d (hwatchdogs ▸ hd) u hu
  omega

theorem Sys.Rested.move (h : s.Rested) {d' : Watchdog}
    (hset : s'.watchdogs = s.watchdogs.set w d') (hnow : s'.now = s.now)
    (hperiod : s'.reconnectBudget.refillPeriod = s.reconnectBudget.refillPeriod)
    (hd' : ∀ u : Nat, d'.pc = .sleeping u → u ≤ s.now + ReconnectBudget.defaultRefillPeriod) :
    s'.Rested := by
  refine ⟨hperiod.trans h.period, ?_⟩
  rw [hset, hnow]
  exact Pool.forall_set h.wake hd'

theorem rested_step (h : s.Rested) (hs : Step s a s') : s'.Rested := by
  cases hs with
  | spawnWatchdog =>
    refine ⟨h.period, Pool.forall_append h.wake ?_⟩
    intro u hu
    cases hu
  | @watchdogSleep k millis d hk hpc hm =>
    refine h.move rfl rfl (ReconnectBudget.refill_refillPeriod _ _) fun u hu => ?_
    obtain rfl : s.now + max (millis * nanosPerMilli) (s.reconnectBudget.waitTime s.now).1 = u :=
      WatchdogPc.sleeping.inj hu
    have hwait := s.reconnectBudget.waitTime_le s.now
    rw [h.period] at hwait
    -- the longest delay is 36 s
    have hmillis : millis ≤ 1200 * ExpBackoff.capSecs :=
      (of_decide_eq_true (Bool.and_eq_true_iff.mp hm).2).trans
        (Nat.mul_le_mul_left _ d.backoff.raw_le)
    have hdelay : millis * nanosPerMilli ≤ ReconnectBudget.defaultRefillPeriod :=
      (Nat.mul_le_mul_right nanosPerMilli hmillis).trans (by decide)
    exact Nat.add_le_add_left (Nat.max_le.mpr ⟨hdelay, hwait⟩) _
  | sawEnded | sawClosed | exitNoViewers | startRetrying | wakeSame | wakeOther | keepRetrying
  | sawFailed | watchdogConnect | reinstall | discard =>
    exact h.move rfl rfl rfl fun u hu => by cases hu
  | watchdogOk | watchdogErr =>
    exact h.move rfl rfl (ReconnectBudget.refill_refillPeriod _ _) fun u hu => by cases hu
  | callConnectOk | callConnectErr | rejectBudget | enterConnecting | snapshot =>
    exact h.of_eq rfl (Nat.le_refl _) (ReconnectBudget.refill_refillPeriod _ _)
  | tick => exact h.of_eq rfl (Nat.le_add_right _ _) rfl
  | _ => exact h.of_eq rfl (Nat.le_refl _) rfl

variable {idleTimeout : Nat} {failedRx : Option Bool}

theorem rested_of_reachable (h : Reachable (system idleTimeout failedRx) s) : s.Rested :=
  invariant_of_steps ⟨rfl, fun _ hd => (by cases hd)⟩ (fun _ _ hp hs => rested_step hp hs) h

/-- From the moment a watchdog is about to retry and as long as no attempt of it succeeds, its attempts
are spaced by the schedule of its backoff, so the one numbered `n` is at least `n + 1` delays later.
And it never sleeps for longer than the refill period of the budget. -/
theorem attempts_spaced (h : Reachable (system idleTimeout failedRx) s) {d : Watchdog}
    (hw : s.watchdogs[w]? = some d) (hpc : d.pc = .backoff) {times : List Nat}
    (hp : Observed (system idleTimeout failedRx) (fun t a => t.keepsFailing w a = true)
      (Sys.attemptTimes w) s times s') :
    d.backoff.Spaced s.now times ∧
      (∀ n t, times[n]? = some t → s.now + d.backoff.leastTotal (n + 1) ≤ t) ∧
      ∀ d', s'.watchdogs[w]? = some d' → ∀ u : Nat, d'.pc = .sleeping u →
        u ≤ s'.now + ReconnectBudget.defaultRefillPeriod := by
  have hstart : Paced d.backoff s.now w [] s := by
    refine ⟨trivial, d, hw, ?_⟩
    simp only [Watchdog.Retrying, hpc]
    exact ⟨rfl, Nat.le_refl _⟩
  have hpaced : Paced d.backoff s.now w times s' :=
    hp.induct h hstart fun _ a _ _ _ hok hs hpaced =>
      paced_step hpaced (step_of_eq hs) (by simpa [Sys.keepsFailing] using hok)
  refine ⟨hpaced.1, fun n t ht => hpaced.1.leastTotal_le ht, fun d' hd' => ?_⟩
  exact (rested_of_reachable (hp.reachable h)).wake d' (List.mem_of_getElem? hd')

/-- The steps of an attempt of watchdog 0 that fails, after a sleep of `millis` milliseconds. -/
def retry (millis : Nat) : List Action :=
  [.watchdogSleep 0 millis, .tick (millis * nanosPerMilli), .watchdog 0, .watchdog 0,
    .watchdogConnect 0 stubParams, .watchdogResult 0 (.err (.unavailable "timed out"))]

/-- The session ends under its viewer, and two attempts fail: they are 0.8 s and 2.4 s later. -/
theorem attempts_spaced_failing : ∃ s times s', Reachable (system 60 none) s ∧
    Observed (system 60 none) (fun t a => t.keepsFailing 0 a = true) (Sys.attemptTimes 0) s times s' ∧
    times = [800 * nanosPerMilli, 2400 * nanosPerMilli] ∧
    ExpBackoff.new.Spaced s.now times := by
  obtain ⟨s, hr, hp⟩ := exists_reachable_of_run (system 60 none)
    (bringUp 0 0 ++ [.sessionEnds 0, .watchdog 0, .watchdog 0])
    (fun s : Sys => decide (s.watchdogs[0]? = some (Watchdog.mk 0 .new .backoff)) &&
      (observe (system 60 none) (Sys.keepsFailing 0) (Sys.attemptTimes 0) s
        (retry 800 ++ retry 1600)).any
        fun x : List Nat × Sys =>
          decide (x.1 = [800 * nanosPerMilli, 2400 * nanosPerMilli])) (by decide +kernel)
  obtain ⟨hw, hrun⟩ := Bool.and_eq_true_iff.mp hp
  obtain ⟨⟨times, s'⟩, hobserve, htimes⟩ := (Option.any_eq_true _ _).mp hrun
  have hpath := observed_of_observe (.nil s) hobserve
  rw [List.nil_append] at hpath
  obtain ⟨hspaced, -⟩ := attempts_spaced hr (of_decide_eq_true hw) rfl hpath
  exact ⟨s, times, s', hr, hpath, of_decide_eq_true htimes, hspaced⟩

end Supervisor

end Buddy3dProxy
