import Buddy3dProxy.Supervisor.Slots

/-!
# The idle timer

A session that nobody watches is always scheduled for teardown. A timer is started when the count
drops to zero and gives up only on a positive count, and an `Attached` that aborts it belongs to a
viewer who is still counted or whose `Detached` comes later in the queue. So whenever the count is
zero while a session is up, some timer is still to come.
-/

namespace Buddy3dProxy.Supervisor

open Transition

/-- The timer has neither been aborted nor run its teardown. -/
def TimerPc.pending : TimerPc → Bool
  | sleeping _ | tearing => true
  | _ => false

/-- Whenever a session is up that nobody is counted for, a timer is pending. -/
def TimersInv (count : Int) (state : State) (timers : List TimerPc) : Prop :=
  count ≤ 0 → state = .streaming → ∃ pc ∈ timers, pc.pending = true

theorem TimersInv.of_pos {n : Int} {st : State} {tm : List TimerPc} (hn : 0 < n) :
    TimersInv n st tm := fun hle => absurd hle (by omega)

theorem TimersInv.of_not_streaming {n : Int} {st : State} {tm : List TimerPc}
    (hst : st ≠ .streaming) : TimersInv n st tm := fun _ hs => absurd hs hst

def Sys.Timers (s : Sys) : Prop := TimersInv s.viewerCount s.state s.timers

theorem timers_step {s s' : Sys} {a : Action} (hv : s.Viewers) (hslots : s.Slots) (h : s.Timers)
    (hs : Step s a s') : s'.Timers := by
  cases hs with
  | subscribe =>
    have hcount := hv.count_eq
    exact TimersInv.of_pos (by show 0 < s.viewerCount + 1; omega)
  | enterConnecting => exact TimersInv.of_not_streaming State.noConfusion
  | resetToIdle => exact TimersInv.of_not_streaming State.noConfusion
  | install hi => exact TimersInv.of_pos (hv.count_pos hi rfl)
  | reinstall hw hpc hl hc =>
    intro hle _
    exact h hle (hslots.streaming_of_rtpTx hc)
  | onAttached hq =>
    -- the viewer who sent it is counted, or its `Detached` is still queued
    refine TimersInv.of_pos (Int.not_le.mp ?_)
    intro hle
    have hnil := hv.events_eq_nil hle
    rw [hq] at hnil
    cases hnil
  | onDetached hq hpos => exact TimersInv.of_pos (Int.not_le.mp hpos)
  | onLastDetached =>
    intro _ _
    exact ⟨_, List.mem_append_right _ (List.mem_singleton_self _), rfl⟩
  | timerGivesUp ht hd hl hpos => exact TimersInv.of_pos hpos
  | timerTears ht =>
    intro _ _
    have hlt := (List.getElem?_eq_some_iff.mp ht).1
    exact ⟨.tearing, List.mem_set hlt _, rfl⟩
  | teardown => exact TimersInv.of_not_streaming State.noConfusion
  | teardownIdle ht hst => exact TimersInv.of_not_streaming fun hs => hst (Or.inl hs)
  | timerStops ht =>
    intro hle hst
    obtain ⟨pc, hmem, hpending⟩ := h hle hst
    refine ⟨pc, Pool.mem_set_of_ne ht ?_ hmem, hpending⟩
    rintro rfl
    cases hpending
  | _ => exact h

variable {idleTimeout : Nat} {failedRx : Option Bool} {s : Sys}

theorem timers_of_reachable (h : Reachable (system idleTimeout failedRx) s) : s.Timers :=
  invariant_of_steps (TimersInv.of_not_streaming State.noConfusion)
    (fun hr _ hp hs => timers_step (viewers_of_reachable hr.reachable)
      (slots_of_reachable hr.reachable) hp hs) h

/-- A session that nobody watches is scheduled for teardown: at count zero while `Streaming`, a timer
that has not been aborted has yet to run its teardown. The queue is empty then by itself, and a call
that panicked or was cancelled would keep the count positive. -/
theorem idleTimer_pending (h : Reachable (system idleTimeout failedRx) s)
    (hcount : s.viewerCount = 0) (hst : s.state = .streaming) :
    ∃ pc ∈ s.timers, pc.pending = true :=
  timers_of_reachable h (by omega) hst

/-- A viewer comes and goes twice: the first timer is aborted, the second one is pending. -/
theorem idleTimer_pending_twice : ∃ s, Reachable (system 60 none) s ∧ s.viewerCount = 0 ∧
    s.timers = [.aborted, .sleeping 60] ∧ ∃ pc ∈ s.timers, pc.pending = true := by
  obtain ⟨s, hr, hp⟩ := exists_reachable_of_run (system 60 none)
    (bringUp 0 0 ++ [.dropSubscription 0, .viewerEvent, .subscribe, .call 1, .viewerEvent,
      .call 1, .call 1, .dropSubscription 1, .viewerEvent])
    (fun s => decide (s.viewerCount = 0 ∧ s.state = .streaming ∧
      s.timers = [.aborted, .sleeping 60])) (by decide +kernel)
  obtain ⟨hcount, hst, htimers⟩ := of_decide_eq_true hp
  exact ⟨s, hr, hcount, htimers, idleTimer_pending hr hcount hst⟩

end Buddy3dProxy.Supervisor
