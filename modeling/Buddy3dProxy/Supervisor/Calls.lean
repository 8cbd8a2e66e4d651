import Buddy3dProxy.Supervisor.Steps

/-!
# How a call moves

`Move s s' k a pc pc'` lists the moves of call `k` from point to point, with what a move knows of the
published state. A step leaves a call where it is or takes it one move further (`call_of_step`), so
what holds of one call along a run is proved by cases on its moves.
-/

namespace Buddy3dProxy.Supervisor

open Transition

/-- The moves of call `k` in a step from `s` to `s'`. -/
inductive Move (s s' : Sys) (k : Nat) : Action → SubscribePc → SubscribePc → Prop where
  | sendAttached : Move s s' k (.call k) .counted .lockState
  | rejectBudget {e : SourceError} :
      Move s s' k (.call k) .lockState (.rollback .budgetExhausted e)
  | enterConnecting : Move s s' k (.call k) .lockState .startConnect
  | foundConnecting (hs : s.state = .connecting) : Move s s' k (.call k) .lockState .watchSubscribe
  | foundStreaming (hs : s.state = .streaming) : Move s s' k (.call k) .lockState .lockFinal
  | startConnect {params : Rtsp.H264Params} {tx j : Nat} :
      Move s s' k (.startConnect k params) .startConnect (.connect tx j)
  | connectOk {tx j : Nat} : Move s s' k (.callConnect k .ok) (.connect tx j) (.connected tx j)
  | connectErr {tx j : Nat} {e : SourceError} :
      Move s s' k (.callConnect k (.err e)) (.connect tx j) (.connectFailed e)
  | reset {e : SourceError} :
      Move s s' k (.call k) (.connectFailed e) (.rollback .connectFailed e)
  | install {tx j : Nat} (hs' : s'.state = .streaming) :
      Move s s' k (.call k) (.connected tx j) (.spawnWatchdog tx j)
  | spawnWatchdog {tx j : Nat} : Move s s' k (.call k) (.spawnWatchdog tx j) .lockFinal
  | watchSubscribe : Move s s' k (.call k) .watchSubscribe .watchRead
  | watchRead : Move s s' k (.call k) .watchRead s.watchOutcome
  | watchChanged {seen : Nat} : Move s s' k (.call k) (.watchChanged seen) .watchRead
  | watchDone : Move s s' k (.call k) .watchDone .lockFinal
  | lockFinal : Move s s' k (.call k) .lockFinal s.finalOutcome
  | rollback {x : FailureExit} {e : SourceError} :
      Move s s' k (.call k) (.rollback x e) (.returning x e)
  | returning {x : FailureExit} {e : SourceError} :
      Move s s' k (.call k) (.returning x e) (.failed e)
  | cancelOwner {pc : SubscribePc}
      (hpc : (∃ tx j, pc = .connect tx j) ∨ (∃ e, pc = .connectFailed e) ∨
        ∃ tx j, pc = .connected tx j) : Move s s' k (.cancel k) pc (.cancelled true)
  | cancel {pc : SubscribePc}
      (hpc : pc = .lockState ∨ (∃ seen, pc = .watchChanged seen) ∨ pc = .lockFinal) :
      Move s s' k (.cancel k) pc (.cancelled false)
  | dropSubscription {sub : Subscription} :
      Move s s' k (.dropSubscription k) (.live sub) .dropped
  | play {sub sub' : Subscription} : Move s s' k (.play k) (.live sub) (.live sub')
  | forward {sub sub' : Subscription} : Move s s' k (.forward k) (.live sub) (.live sub')

/-- One step of the system, seen from call `k`: it stays where it is, or it makes one move. A step of
its own is always a move. -/
theorem call_of_step {s s' : Sys} {a : Action} (hs : Step s a s') {k : Nat} {pc : SubscribePc}
    (hk : s.calls[k]? = some pc) :
    s'.calls[k]? = some pc ∧ a ≠ .call k ∨
      ∃ pc', s'.calls[k]? = some pc' ∧ Move s s' k a pc pc' := by
  have moved {i : Nat} {p p' : SubscribePc} {a' : Action} (hi : s.calls[i]? = some p)
      (hm : Move s s' i a' p p') (ha : i ≠ k → a' ≠ .call k) :
      (s.calls.set i p')[k]? = some pc ∧ a' ≠ .call k ∨
        ∃ pc', (s.calls.set i p')[k]? = some pc' ∧ Move s s' k a' pc pc' := by
    by_cases hik : i = k
    · subst hik
      have hp : p = pc := Option.some.inj (hi.symm.trans hk)
      exact Or.inr ⟨p', Pool.getElem?_set_self hi, hp ▸ hm⟩
    · exact Or.inl ⟨Pool.getElem?_set_of_ne hik hk, ha hik⟩
  have own {i : Nat} (hik : i ≠ k) : Action.call i ≠ .call k := fun he => hik (Action.call.inj he)
  cases hs with
  | subscribe => exact Or.inl ⟨Pool.getElem?_append_of_some hk, Action.noConfusion⟩
  | sendAttached hi => exact moved hi .sendAttached own
  | rejectBudget hi => exact moved hi .rejectBudget own
  | enterConnecting hi => exact moved hi .enterConnecting own
  | foundConnecting hi hl hs => exact moved hi (.foundConnecting hs) own
  | foundStreaming hi hl hs => exact moved hi (.foundStreaming hs) own
  | startConnect hi => exact moved hi .startConnect fun _ => Action.noConfusion
  | callConnectOk hi => exact moved hi .connectOk fun _ => Action.noConfusion
  | callConnectErr hi => exact moved hi .connectErr fun _ => Action.noConfusion
  | resetToIdle hi => exact moved hi .reset own
  | noReset hi => exact moved hi .reset own
  | install hi => exact moved hi (.install rfl) own
  | spawnWatchdog hi => exact moved hi .spawnWatchdog own
  | watchSubscribe hi => exact moved hi .watchSubscribe own
  | watchRead hi => exact moved hi .watchRead own
  | watchChanged hi => exact moved hi .watchChanged own
  | watchDone hi => exact moved hi .watchDone own
  | lockFinal hi => exact moved hi .lockFinal own
  | rollback hi => exact moved hi .rollback own
  | returning hi => exact moved hi .returning own
  | cancelLock hi => exact moved hi (.cancel (Or.inl rfl)) fun _ => Action.noConfusion
  | cancelConnect hi =>
    exact moved hi (.cancelOwner (Or.inl ⟨_, _, rfl⟩)) fun _ => Action.noConfusion
  | cancelFailed hi =>
    exact moved hi (.cancelOwner (Or.inr (Or.inl ⟨_, rfl⟩))) fun _ => Action.noConfusion
  | cancelConnected hi =>
    exact moved hi (.cancelOwner (Or.inr (Or.inr ⟨_, _, rfl⟩))) fun _ => Action.noConfusion
  | cancelWaiting hi =>
    exact moved hi (.cancel (Or.inr (Or.inl ⟨_, rfl⟩))) fun _ => Action.noConfusion
  | cancelFinal hi => exact moved hi (.cancel (Or.inr (Or.inr rfl))) fun _ => Action.noConfusion
  | dropSubscription hi => exact moved hi .dropSubscription fun _ => Action.noConfusion
  | play hi => exact moved hi .play fun _ => Action.noConfusion
  | forward hi => exact moved hi .forward fun _ => Action.noConfusion
  | _ => exact Or.inl ⟨hk, Action.noConfusion⟩

end Buddy3dProxy.Supervisor
