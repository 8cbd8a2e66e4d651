import Buddy3dProxy.Supervisor.Handles
import Buddy3dProxy.Transition.Holders

/-!
# The sessions that run

A session that is not stopped keeps a peer connection and a camera busy. `SessionsInv` gives each of
them its one holder, so they are as many as their holders: one for each attempt under way and one for
the stored stop handle.
-/

namespace Buddy3dProxy.Supervisor

open Transition

def SubscribePc.holds (pc : SubscribePc) : Bool := pc.session?.isSome

def Watchdog.holds (d : Watchdog) : Bool := d.pc.session?.isSome

/-- The sessions that have not been stopped. -/
def Sys.running (s : Sys) : Nat := s.sessions.countP fun x => !x.stopped

variable {ss : List Session} {calls : List SubscribePc} {watchdogs : List Watchdog}
  {rtpTx stop : Option Nat} {j : Nat}

/-- What is held has not been stopped. -/
theorem SubscribePc.HoldsOk.running {pc : SubscribePc} (h : pc.HoldsOk ss)
    (hj : pc.session? = some j) : ss[j]?.any (fun x => !x.stopped) = true := by
  cases pc with
  | connect tx k | connected tx k =>
    obtain rfl := Option.some.inj hj
    obtain ⟨x, hx, -, hstopped, -⟩ := h
    rw [hx, Option.any_some, hstopped]
    rfl
  | _ => cases hj

theorem WatchdogPc.HoldsOk.running {tx : Nat} {pc : WatchdogPc} (h : pc.HoldsOk ss tx)
    (hj : pc.session? = some j) : ss[j]?.any (fun x => !x.stopped) = true := by
  cases pc with
  | connecting k | connected k =>
    obtain rfl := Option.some.inj hj
    obtain ⟨x, hx, -, hstopped, -⟩ := h
    rw [hx, Option.any_some, hstopped]
    rfl
  | _ => cases hj

theorem lt_of_running (h : ss[j]?.any (fun x => !x.stopped) = true) : j < ss.length := by
  obtain ⟨x, hx, -⟩ := (Option.any_eq_true _ _).mp h
  exact (List.getElem?_eq_some_iff.mp hx).1

theorem SessionsInv.running_of_holders (h : SessionsInv ss calls watchdogs rtpTx stop)
    (hpos : 0 < holders j calls watchdogs stop) : ss[j]?.any (fun x => !x.stopped) = true := by
  unfold holders at hpos
  by_cases hcall : 0 < calls.countP (·.session? == some j)
  · obtain ⟨pc, hpc, hheld⟩ := List.countP_pos_iff.mp hcall
    exact (h.call pc hpc).running (beq_iff_eq.mp hheld)
  by_cases hwatchdog : 0 < watchdogs.countP (·.pc.session? == some j)
  · obtain ⟨d, hd, hheld⟩ := List.countP_pos_iff.mp hwatchdog
    exact (h.watchdog d hd).running (beq_iff_eq.mp hheld)
  · have hstop : stop = some j := by
      by_contra hne
      rw [if_neg hne] at hpos
      omega
    obtain ⟨c, -, x, hx, -, hstopped, -⟩ := h.stored j hstop
    rw [hx, Option.any_some, hstopped]
    rfl

/-- A session has one holder until it is stopped, and none from then on. -/
theorem SessionsInv.holders_eq (h : SessionsInv ss calls watchdogs rtpTx stop) (j : Nat) :
    holders j calls watchdogs stop = if ss[j]?.any (fun x => !x.stopped) then 1 else 0 := by
  by_cases hrun : ss[j]?.any (fun x => !x.stopped) = true
  · obtain ⟨x, hx, hstopped⟩ := (Option.any_eq_true _ _).mp hrun
    have hpos := h.held j x hx (by simpa using hstopped)
    have hone := h.unique j
    rw [if_pos hrun]
    omega
  · rw [if_neg hrun]
    by_contra hne
    exact hrun (h.running_of_holders (by omega))

/-- The holders of a session, the stored handle as a list of one. -/
theorem holders_toList (j : Nat) (calls : List SubscribePc) (watchdogs : List Watchdog)
    (stop : Option Nat) : holders j calls watchdogs stop =
      calls.countP (·.session? == some j) + watchdogs.countP (·.pc.session? == some j) +
        stop.toList.countP (some · == some j) := by
  unfold holders
  congr 1
  cases stop with
  | none => rfl
  | some k => simp [List.countP_cons]

theorem SessionsInv.countP_running (h : SessionsInv ss calls watchdogs rtpTx stop) :
    ss.countP (fun x => !x.stopped) =
      calls.countP SubscribePc.holds + watchdogs.countP Watchdog.holds + stop.toList.length := by
  have hcalls : ∑ j ∈ Finset.range ss.length, calls.countP (·.session? == some j) =
      calls.countP SubscribePc.holds :=
    Holders.sum_holders fun pc hpc j hj => lt_of_running ((h.call pc hpc).running hj)
  have hwatchdogs : ∑ j ∈ Finset.range ss.length, watchdogs.countP (·.pc.session? == some j) =
      watchdogs.countP Watchdog.holds :=
    Holders.sum_holders fun d hd j hj => lt_of_running ((h.watchdog d hd).running hj)
  have hstop : ∑ j ∈ Finset.range ss.length, stop.toList.countP (some · == some j) =
      stop.toList.length := by
    rw [Holders.sum_holders]
    · exact List.countP_eq_length.mpr fun _ _ => rfl
    · intro k hk j hj
      obtain rfl := Option.some.inj hj
      obtain ⟨c, -, hheld⟩ := h.stored k (Option.mem_toList.mp hk)
      exact hheld.lt
  rw [Holders.countP_eq_sum, ← hcalls, ← hwatchdogs, ← hstop, ← Finset.sum_add_distrib,
    ← Finset.sum_add_distrib]
  refine Finset.sum_congr rfl fun j _ => ?_
  rw [← h.holders_eq j, holders_toList]

variable {idleTimeout : Nat} {failedRx : Option Bool} {s : Sys}

/-- A first attempt and an installed session exclude each other. -/
theorem SlotsInv.holds_le {st : State} {h264 : Option Rtsp.H264Params}
    (h : SlotsInv st rtpTx stop h264 calls) :
    calls.countP SubscribePc.holds + stop.toList.length ≤ if st = .idle then 0 else 1 := by
  have howns : calls.countP SubscribePc.holds ≤ calls.countP SubscribePc.owns := by
    refine List.countP_mono_left fun pc _ hpc => ?_
    cases pc with
    | connect | connected => rfl
    | _ => cases hpc
  have howner := h.owner
  cases st with
  | idle =>
    have hnone := (h.empty (by decide)).2.1
    rw [if_neg (by decide)] at howner
    rw [hnone, if_pos rfl, Option.toList_none, List.length_nil]
    omega
  | connecting =>
    have hnone := (h.empty (by decide)).2.1
    rw [if_pos rfl] at howner
    rw [hnone, if_neg (by decide), Option.toList_none, List.length_nil]
    omega
  | streaming =>
    have hone : stop.toList.length ≤ 1 := by cases stop <;> simp
    rw [if_neg (by decide)] at howner
    rw [if_neg (by decide)]
    omega

/-- The sessions that run are those of the attempts under way and the installed one, at most one
beside the attempts of watchdogs. Once the supervisor is idle and no watchdog is in an attempt, every
session has been stopped. -/
theorem running_eq (h : Reachable (system idleTimeout failedRx) s) :
    s.running = s.calls.countP SubscribePc.holds + s.watchdogs.countP Watchdog.holds +
        s.stop.toList.length ∧
      s.running ≤ 1 + s.watchdogs.countP Watchdog.holds ∧
      (s.state = .idle → s.watchdogs.countP Watchdog.holds = 0 →
        ∀ x ∈ s.sessions, x.stopped = true) := by
  have hrun : s.running = _ := (sessions_of_reachable h).countP_running
  have hslots : SlotsInv s.state s.rtpTx s.stop s.h264 s.calls := slots_of_reachable h
  have hone := hslots.holds_le
  refine ⟨hrun, ?_, fun hst hwatchdogs x hx => ?_⟩
  · have hle : (if s.state = .idle then 0 else 1) ≤ 1 := by split <;> omega
    omega
  · rw [if_pos hst] at hone
    have hzero : s.running = 0 := by omega
    simpa using Pool.of_countP_eq_zero hzero hx

/-- Session 0 ends under its viewer, its watchdog is in an attempt, and the idle timer tears down what
the viewer has left: the attempt is the only session that runs. -/
theorem running_eq_late : ∃ s, Reachable (system 60 none) s ∧ s.state = .idle ∧ s.running = 1 ∧
    s.running = s.calls.countP SubscribePc.holds + s.watchdogs.countP Watchdog.holds +
      s.stop.toList.length := by
  obtain ⟨s, hr, hp⟩ := exists_reachable_of_run (system 60 none)
    (bringUp 0 0 ++ [.sessionEnds 0, .watchdog 0, .watchdog 0, .watchdogSleep 0 1000,
      .tick 1000000000, .watchdog 0, .watchdog 0, .watchdogConnect 0 stubParams,
      .dropSubscription 0, .viewerEvent, .tick 60, .timer 0, .timer 0])
    (fun s => decide (s.state = .idle ∧ s.running = 1)) (by decide +kernel)
  obtain ⟨hst, hone⟩ := of_decide_eq_true hp
  exact ⟨s, hr, hst, hone, (running_eq hr).1⟩

end Buddy3dProxy.Supervisor
