import Buddy3dProxy.Supervisor.Waiters

/-!
# With a permanent receiver

The snapshot worker and the MQTT watcher each keep a receiver of `state_changes()` for as long as the
process runs. While one of them has its receiver, no write to the watch is dropped: what the watch holds
is the published state, and no call goes by an outdated one.
-/

namespace Buddy3dProxy.Supervisor

open Tokio Transition

/-- The condition on a step: a receiver was handed out first, and the last one is not dropped. -/
def Sys.keepsListener (s : Sys) (a : Action) : Bool :=
  if s.stateReceivers = 0 then a == .stateChanges
  else s.stateReceivers != 1 || a != .dropStateChanges

variable {s s' : Sys} {a : Action}

/-- The watch holds the value that was stored last, and a state that changes is sent. -/
theorem Step.value_change (hs : Step s a s') :
    s'.state = s.state ∧ s'.stateWatch.value = s.stateWatch.value ∨
      s'.stateWatch = s.stateWatch.send s'.state := by
  cases hs with
  | @returning i x => cases x <;> exact .inl ⟨rfl, rfl⟩
  | _ => first | exact .inl ⟨rfl, rfl⟩ | exact .inr rfl

/-- The watch holds the published state. -/
def Sys.Informed (s : Sys) : Prop := s.stateWatch.value = s.state

theorem informed_step (hreceivers : s.Receivers) (h : s.Informed) (hok : s.keepsListener a = true)
    (hs : Step s a s') : s'.Informed := by
  unfold Sys.Informed at h ⊢
  by_cases hzero : s.stateReceivers = 0
  · -- the first receiver is handed out
    obtain rfl : a = .stateChanges := by simpa [Sys.keepsListener, hzero] using hok
    cases hs with
    | stateChanges => exact h
  · rcases hs.value_change with ⟨hstate, hvalue⟩ | hsend
    · rw [hvalue, hstate, h]
    · have hpos : s.stateWatch.receivers ≠ 0 := by
        have hcount : s.stateWatch.receivers = s.stateReceivers + _ := hreceivers
        omega
      rw [hsend]
      unfold Watch.send
      rw [if_neg hpos]

variable {idleTimeout : Nat} {failedRx : Option Bool}

theorem informed_of_reachableWhere
    (h : ReachableWhere (system idleTimeout failedRx) (fun s a => s.keepsListener a = true) s) :
    s.Informed :=
  invariant_of_steps rfl (fun hr hok hp hs =>
    informed_step (receivers_of_reachable hr.reachable) hp hok hs) h

/-- In a run with a listener a waiting call reads the published state. -/
theorem readsState_of_informed (h : s.Informed) (a : Action) : s.readsState a = true := by
  unfold Sys.readsState
  cases a with
  | call i => simp [show s.stateWatch.value = s.state from h]
  | _ => rfl

theorem readsStreaming_of_informed (h : s.Informed) (a : Action) : s.readsStreaming a = true := by
  unfold Sys.readsStreaming
  cases a with
  | call i =>
    rw [show s.stateWatch.value = s.state from h]
    cases s.state <;> simp
  | _ => rfl

theorem reachableWhere_of_keepsListener {ok : Sys → Action → Prop}
    (hinformed : ∀ {s : Sys} {a : Action}, s.Informed → ok s a)
    (h : ReachableWhere (system idleTimeout failedRx) (fun s a => s.keepsListener a = true) s) :
    ReachableWhere (system idleTimeout failedRx) ok s := by
  induction h with
  | init => exact .init
  | step h _ hs ih => exact .step ih (hinformed (informed_of_reachableWhere h)) hs

/-- In every run that keeps a receiver of `state_changes()` from its beginning, the watch holds the
published state, every waiting call reads it, and no `expect` of a final section fires. -/
theorem watch_eq_state
    (h : ReachableWhere (system idleTimeout failedRx) (fun s a => s.keepsListener a = true) s) :
    s.stateWatch.value = s.state ∧ .panicked ∉ s.calls ∧
      ReachableWhere (system idleTimeout failedRx) (fun s a => s.readsState a = true) s ∧
      ReachableWhere (system idleTimeout failedRx) (fun s a => s.readsStreaming a = true) s := by
  have hstreaming : ReachableWhere (system idleTimeout failedRx)
      (fun s a => s.readsStreaming a = true) s :=
    reachableWhere_of_keepsListener (fun hinformed => readsStreaming_of_informed hinformed _) h
  refine ⟨informed_of_reachableWhere h, ?_, ?_, hstreaming⟩
  · exact fun hmem => (final_of_reachableWhere hstreaming).safe _ hmem rfl
  · exact reachableWhere_of_keepsListener (fun hinformed => readsState_of_informed hinformed _) h

/-- With a listener, the first viewer's session is torn down and a third viewer waits for the second
one's connect. -/
theorem watch_eq_state_waiting : ∃ s, Reachable (system 60 none) s ∧
    s.calls[2]? = some (.watchChanged s.stateWatch.version) ∧ s.stateWatch.value = s.state ∧
    .panicked ∉ s.calls := by
  obtain ⟨s, hr, hp⟩ := exists_reachableWhere_of_runWhere (system 60 none) Sys.keepsListener
    ([.stateChanges] ++ bringUp 0 0 ++ [.dropSubscription 0, .viewerEvent, .tick 60, .timer 0,
      .timer 0, .subscribe, .call 1, .call 1, .startConnect 1 stubParams, .subscribe, .call 2, .call 2,
      .call 2, .call 2])
    (fun s : Sys => decide (s.calls[2]? = some (SubscribePc.watchChanged s.stateWatch.version)))
    (by decide +kernel)
  obtain ⟨hvalue, hsafe, -⟩ := watch_eq_state hr
  exact ⟨s, hr.reachable, of_decide_eq_true hp, hvalue, hsafe⟩

end Buddy3dProxy.Supervisor
