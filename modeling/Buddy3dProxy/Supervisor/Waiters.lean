import Buddy3dProxy.Supervisor.Calls
import Buddy3dProxy.Supervisor.Slots

/-!
# Waiting for another viewer's connect

A call that finds `Connecting` learns the outcome from `state_watch`. The value it reads there is the
published state unless a write was dropped because the watch had no receiver at that moment, and only
the first read can be stale: from then on the call itself is a receiver. `ReceiversInv` counts the
receivers, `SeenInv` says what a call knows that sleeps in `changed()`, and `FinalInv` that a call on
its way to the final section finds the session it is after.
-/

namespace Buddy3dProxy.Supervisor

open Tokio Transition

namespace SubscribePc

def holdsReceiver : SubscribePc → Bool
  | watchRead | watchChanged _ | watchDone | rollback .sawIdle _ | returning .sawIdle _ => true
  | _ => false

/-- The call is past the outcome of a connect and has yet to run its final section. -/
def proceeds : SubscribePc → Bool
  | spawnWatchdog _ _ | watchDone | lockFinal => true
  | _ => false

def waits : SubscribePc → Bool
  | watchSubscribe | watchRead | watchChanged _ => true
  | _ => false

/-- The call is about to return an error, or has returned one. -/
def isErr : SubscribePc → Bool
  | rollback _ _ | returning _ _ | failed _ => true
  | _ => false

/-- The call returned `Ok`; its subscription may have been dropped since. -/
def returnedOk : SubscribePc → Bool
  | live _ | dropped => true
  | _ => false

end SubscribePc

open SubscribePc

/-- The condition on a step: a waiting call that reads `Streaming` reads it while the state is. -/
def Sys.readsStreaming (s : Sys) : Action → Bool
  | .call i =>
    s.calls[i]? != some .watchRead || s.stateWatch.value != .streaming || s.state == .streaming
  | _ => true

/-- The stronger condition that a waiting call always reads the published state. -/
def Sys.readsState (s : Sys) : Action → Bool
  | .call i => s.calls[i]? != some .watchRead || s.stateWatch.value == s.state
  | _ => true

theorem Sys.value_eq_of_readsState {s : Sys} {i : Nat} (h : s.readsState (.call i) = true)
    (hi : s.calls[i]? = some .watchRead) : s.stateWatch.value = s.state := by
  simpa [readsState, hi] using h

/-! ## The final section -/

/-- Whoever is on the way to the final section finds the state `Streaming`, and no call has
panicked. -/
structure FinalInv (st : State) (calls : List SubscribePc) : Prop where
  ready : ∀ pc ∈ calls, pc.proceeds = true → st = .streaming
  safe : ∀ pc ∈ calls, pc ≠ .panicked

namespace FinalInv

variable {st st' : State} {calls : List SubscribePc} {i : Nat} {pc' : SubscribePc}

theorem move (h : FinalInv st calls) (hp : pc'.proceeds = true → st = .streaming)
    (hpc' : pc' ≠ .panicked) : FinalInv st (calls.set i pc') :=
  ⟨Pool.forall_set h.ready hp, Pool.forall_set h.safe hpc'⟩

theorem of_ne (h : FinalInv st calls) (hst : st ≠ .streaming) : FinalInv st' calls :=
  ⟨fun pc hpc hp => absurd (h.ready pc hpc hp) hst, h.safe⟩

theorem streaming (h : FinalInv st calls) : FinalInv .streaming calls := ⟨fun _ _ _ => rfl, h.safe⟩

end FinalInv

def Sys.Final (s : Sys) : Prop := FinalInv s.state s.calls

theorem proceeds_counted {pc : SubscribePc} (h : pc.proceeds = true) :
    pc.isCounted = true ∧ pc.preLock = false := by
  cases pc with
  | spawnWatchdog | watchDone | lockFinal => exact ⟨rfl, rfl⟩
  | _ => cases h

/-- With all three slots set, the final section returns a subscription. -/
theorem finalOutcome_of_streaming {s : Sys} (hslots : s.Slots) (hst : s.state = .streaming) :
    ∃ sub, s.finalOutcome = .live sub := by
  obtain ⟨hrtp, -, hh264⟩ := hslots.full hst
  obtain ⟨c, hc⟩ := Option.isSome_iff_exists.mp hrtp
  obtain ⟨params, hp⟩ := Option.isSome_iff_exists.mp hh264
  unfold Sys.finalOutcome
  rw [hp, hc]
  exact ⟨_, rfl⟩

/-- A step that meets the condition brings no call to an empty final section. -/
theorem final_step {s s' : Sys} {a : Action} (hv : s.Viewers) (hslots : s.Slots)
    (hok : s.readsStreaming a = true) (h : s.Final) (hs : Step s a s') : s'.Final := by
  cases hs with
  | subscribe =>
    exact ⟨Pool.forall_append h.ready fun hp => (by cases hp),
      Pool.forall_append h.safe SubscribePc.noConfusion⟩
  | sendAttached | rejectBudget | foundConnecting | startConnect | callConnectOk | callConnectErr
  | noReset | watchSubscribe | watchChanged | rollback | returning | cancelLock | cancelConnect
  | cancelFailed | cancelConnected | cancelWaiting | cancelFinal | dropSubscription | play
  | forward => exact h.move (fun hp => (by cases hp)) SubscribePc.noConfusion
  | enterConnecting hi hl hst =>
    have hne : s.state ≠ .streaming := by
      rw [hst]
      decide
    exact (h.of_ne hne).move (fun hp => (by cases hp)) SubscribePc.noConfusion
  | resetToIdle hi hl hst =>
    have hne : s.state ≠ .streaming := by
      rw [hst]
      decide
    exact (h.of_ne hne).move (fun hp => (by cases hp)) SubscribePc.noConfusion
  | foundStreaming hi hl hst => exact h.move (fun _ => hst) SubscribePc.noConfusion
  | install => exact h.streaming.move (fun _ => rfl) SubscribePc.noConfusion
  | spawnWatchdog hi =>
    exact h.move (fun _ => h.ready _ (List.mem_of_getElem? hi) rfl) SubscribePc.noConfusion
  | watchRead hi =>
    refine h.move ?_ ?_
    · intro hp
      have hval : s.stateWatch.value = .streaming := by
        unfold Sys.watchOutcome at hp
        split at hp
        · assumption
        · cases hp
        · cases hp
      simpa [Sys.readsStreaming, hi, hval] using hok
    · unfold Sys.watchOutcome
      split <;> exact SubscribePc.noConfusion
  | watchDone hi =>
    exact h.move (fun _ => h.ready _ (List.mem_of_getElem? hi) rfl) SubscribePc.noConfusion
  | lockFinal hi =>
    have hst := h.ready _ (List.mem_of_getElem? hi) rfl
    obtain ⟨sub, hsub⟩ := finalOutcome_of_streaming hslots hst
    have hlive : s.finalOutcome ≠ .panicked := by
      rw [hsub]
      exact SubscribePc.noConfusion
    exact h.move (fun _ => hst) hlive
  | reinstall => exact h.streaming
  | teardown ht =>
    refine ⟨?_, h.safe⟩
    intro pc hpc hp
    obtain ⟨hcounted, hpre⟩ := proceeds_counted hp
    have := (hv.tearing (List.mem_of_getElem? ht)).1 pc hpc hcounted
    rw [hpre] at this
    cases this
  | _ => exact h

variable {idleTimeout : Nat} {failedRx : Option Bool} {s : Sys}

theorem final_of_reachableWhere
    (h : ReachableWhere (system idleTimeout failedRx) (fun s a => s.readsStreaming a = true) s) :
    s.Final :=
  invariant_of_steps ⟨fun _ hpc => (by cases hpc), fun _ hpc => (by cases hpc)⟩
    (fun hr hok hp hs => final_step (viewers_of_reachable hr.reachable)
      (slots_of_reachable hr.reachable) hok hp hs) h

/-- In every run in which a waiting call reads `Streaming` only while the state is `Streaming`, the
final section of `subscribe()` finds the `h264` cell and `rtp_tx` set, so neither `expect` fires. -/
theorem finalSection_filled
    (h : ReachableWhere (system idleTimeout failedRx) (fun s a => s.readsStreaming a = true) s) :
    (∀ i : Nat, s.calls[i]? = some .lockFinal → s.h264.isSome ∧ s.rtpTx.isSome) ∧
      .panicked ∉ s.calls := by
  have hfinal := final_of_reachableWhere h
  refine ⟨?_, fun hmem => hfinal.safe _ hmem rfl⟩
  intro i hi
  have hfull := (slots_of_reachable h.reachable).full
    (hfinal.ready _ (List.mem_of_getElem? hi) rfl)
  exact ⟨hfull.2.2, hfull.1⟩

/-- With a permanent receiver of the watch, a second viewer waits for the first one's connect and is
about to run its final section. -/
theorem finalSection_filled_waiting : ∃ s, Reachable (system 60 none) s ∧
    s.calls[1]? = some .lockFinal ∧ s.h264.isSome ∧ s.rtpTx.isSome := by
  obtain ⟨s, hr, hp⟩ := exists_reachableWhere_of_runWhere (system 60 none) Sys.readsStreaming
    [.stateChanges, .subscribe, .call 0, .call 0, .startConnect 0 stubParams, .subscribe,
      .call 1, .call 1, .call 1, .call 1, .register 0, .callConnect 0 .ok, .call 0, .call 1, .call 1,
      .call 1]
    (fun s : Sys => decide (s.calls[1]? = some SubscribePc.lockFinal)) (by decide +kernel)
  have hi := of_decide_eq_true hp
  exact ⟨s, hr.reachable, hi, (finalSection_filled hr).1 1 hi⟩

/-- A receiver that exists during the first connect leaves `Streaming` in the watch. It goes, the
session is torn down, and a second connect starts, both without a receiver. A call that waits for
this connect reads the stale `Streaming` and runs its final section on empty slots. -/
theorem finalSection_panics : ¬ ∀ s, Reachable (system 60 none) s → .panicked ∉ s.calls := by
  intro hall
  obtain ⟨s, hr, hp⟩ := exists_reachable_of_run (system 60 none)
    ([.stateChanges] ++ bringUp 0 0 ++ [.dropStateChanges, .dropSubscription 0, .viewerEvent,
      .tick 60, .timer 0, .timer 0, .subscribe, .call 1, .call 1, .startConnect 1 stubParams,
      .subscribe, .call 2, .call 2, .call 2, .call 2, .call 2, .call 2])
    (fun s => decide (.panicked ∈ s.calls)) (by decide +kernel)
  exact hall s hr (of_decide_eq_true hp)

/-! ## Receivers of the watch -/

/-- The watch counts the receivers handed out and those of the waiting calls. -/
def ReceiversInv (receivers handedOut : Nat) (calls : List SubscribePc) : Prop :=
  receivers = handedOut + calls.countP holdsReceiver

namespace ReceiversInv

variable {n m : Nat} {calls : List SubscribePc} {i : Nat} {pc pc' : SubscribePc}

theorem move (h : ReceiversInv n m calls) (hi : calls[i]? = some pc)
    (hh : pc'.holdsReceiver = pc.holdsReceiver) : ReceiversInv n m (calls.set i pc') := by
  unfold ReceiversInv at h ⊢
  rw [Pool.countP_set_eq hi hh]
  exact h

theorem gain (h : ReceiversInv n m calls) (hi : calls[i]? = some pc)
    (hpc : pc.holdsReceiver = false) (hpc' : pc'.holdsReceiver = true) :
    ReceiversInv (n + 1) m (calls.set i pc') := by
  have hset := Pool.countP_set_gain (p := holdsReceiver) hi hpc hpc'
  unfold ReceiversInv at h ⊢
  omega

theorem lose (h : ReceiversInv n m calls) (hi : calls[i]? = some pc)
    (hpc : pc.holdsReceiver = true) (hpc' : pc'.holdsReceiver = false) :
    ReceiversInv (n - 1) m (calls.set i pc') := by
  have hset := Pool.countP_set_lose (p := holdsReceiver) hi hpc hpc'
  unfold ReceiversInv at h ⊢
  omega

theorem pos (h : ReceiversInv n m calls) (hpc : pc ∈ calls) (hh : pc.holdsReceiver = true) :
    0 < n := by
  have : 0 < calls.countP holdsReceiver := List.countP_pos_iff.mpr ⟨pc, hpc, hh⟩
  unfold ReceiversInv at h
  omega

end ReceiversInv

def Sys.Receivers (s : Sys) : Prop :=
  ReceiversInv s.stateWatch.receivers s.stateReceivers s.calls

theorem receivers_step {s s' : Sys} {a : Action} (h : s.Receivers) (hs : Step s a s') :
    s'.Receivers := by
  cases hs with
  | subscribe =>
    show ReceiversInv _ _ (s.calls ++ [SubscribePc.counted])
    unfold ReceiversInv
    rw [List.countP_append]
    exact h
  | sendAttached hi | rejectBudget hi | foundConnecting hi | foundStreaming hi | startConnect hi
  | callConnectOk hi | callConnectErr hi | noReset hi | spawnWatchdog hi | watchChanged hi
  | cancelLock hi | cancelConnect hi | cancelFailed hi | cancelConnected hi
  | cancelFinal hi | dropSubscription hi | play hi | forward hi => exact h.move hi rfl
  | enterConnecting hi | resetToIdle hi | install hi =>
    show ReceiversInv (s.stateWatch.send _).receivers _ _
    rw [Watch.send_receivers]
    exact h.move hi rfl
  | watchSubscribe hi => exact h.gain hi rfl rfl
  | watchRead hi =>
    refine h.move hi ?_
    unfold Sys.watchOutcome
    split <;> rfl
  | watchDone hi => exact h.lose hi rfl rfl
  | lockFinal hi =>
    refine h.move hi ?_
    unfold Sys.finalOutcome
    split <;> rfl
  | @rollback i x e hi =>
    refine h.move hi ?_
    cases x <;> rfl
  | @returning i x e hi =>
    cases x with
    | sawIdle => exact h.lose hi rfl rfl
    | budgetExhausted | connectFailed => exact h.move hi rfl
  | cancelWaiting hi => exact h.lose hi rfl rfl
  | reinstall | teardown =>
    show ReceiversInv (s.stateWatch.send _).receivers _ _
    rw [Watch.send_receivers]
    exact h
  | stateChanges =>
    unfold Sys.Receivers ReceiversInv at h ⊢
    simp only [Watch.subscribe_receivers]
    omega
  | dropStateChanges hpos =>
    unfold Sys.Receivers ReceiversInv at h ⊢
    simp only [Watch.dropReceiver_receivers]
    omega
  | _ => exact h

theorem receivers_of_reachable (h : Reachable (system idleTimeout failedRx) s) : s.Receivers :=
  invariant_of_steps rfl (fun _ _ hp hs => receivers_step hp hs) h

end Buddy3dProxy.Supervisor
