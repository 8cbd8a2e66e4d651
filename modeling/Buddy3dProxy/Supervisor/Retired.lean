import Buddy3dProxy.Supervisor.Watchdogs

/-!
# Dropped stop handles and retired channels

A channel that is neither stored nor held by the call that created it is retired: it is never stored
again, so nobody ever receives from it again, and its watchdog cannot touch the slots any more. The
stored stop handle is dropped by a teardown, which retires the channel, or by the watchdog of the
stored channel, which only replaces a session that has ended on its own.
-/

namespace Buddy3dProxy.Supervisor

open Transition

/-- The channel `c` has been created, is not stored and is not going to be. -/
structure RetiredInv (c n : Nat) (rtpTx : Option Nat) (calls : List SubscribePc) : Prop where
  lt : c < n
  unstored : rtpTx ≠ some c
  unheld : ∀ pc ∈ calls, pc.tx? ≠ some c

namespace RetiredInv

variable {c n : Nat} {rtpTx : Option Nat} {calls : List SubscribePc} {i : Nat}
  {pc pc' : SubscribePc}

theorem move (h : RetiredInv c n rtpTx calls) (hi : calls[i]? = some pc)
    (htx : pc'.tx? = pc.tx? ∨ pc'.tx? = none) : RetiredInv c n rtpTx (calls.set i pc') := by
  refine ⟨h.lt, h.unstored, Pool.forall_set h.unheld ?_⟩
  rcases htx with htx | htx
  · rw [htx]
    exact h.unheld pc (List.mem_of_getElem? hi)
  · rw [htx]
    exact fun hc => by cases hc

end RetiredInv

def Sys.Retired (s : Sys) (c : Nat) : Prop := RetiredInv c s.channels.length s.rtpTx s.calls

theorem retired_step {s s' : Sys} {a : Action} {c : Nat} (h : s.Retired c) (hs : Step s a s') :
    s'.Retired c := by
  cases hs with
  | subscribe =>
    exact ⟨h.lt, h.unstored, Pool.forall_append h.unheld fun hc => by cases hc⟩
  | sendAttached hi | rejectBudget hi | enterConnecting hi | foundConnecting hi
  | foundStreaming hi | callConnectErr hi | resetToIdle hi | noReset hi | spawnWatchdog hi
  | watchSubscribe hi | watchChanged hi | watchDone hi | rollback hi | returning hi
  | cancelLock hi | cancelConnect hi | cancelFailed hi | cancelConnected hi | cancelWaiting hi
  | cancelFinal hi | dropSubscription hi | play hi | forward hi => exact h.move hi (Or.inr rfl)
  | callConnectOk hi => exact h.move hi (Or.inl rfl)
  | watchRead hi => exact h.move hi (Or.inr (by unfold Sys.watchOutcome; split <;> rfl))
  | lockFinal hi => exact h.move hi (Or.inr (by unfold Sys.finalOutcome; split <;> rfl))
  | startConnect hi =>
    -- the new channel is another one
    have hlt := h.lt
    refine ⟨?_, h.unstored, Pool.forall_set h.unheld ?_⟩
    · show c < (s.channels ++ [_]).length
      rw [List.length_append]
      omega
    · intro hc
      have hc : s.channels.length = c := Option.some.inj hc
      omega
  | @install i tx j x hi =>
    -- the installed channel was held by its call
    have hne : some tx ≠ some c := h.unheld _ (List.mem_of_getElem? hi)
    exact ⟨h.lt, hne, Pool.forall_set h.unheld hne⟩
  | teardown => exact ⟨h.lt, fun hc => (by cases hc), h.unheld⟩
  | rtp =>
    refine ⟨?_, h.unstored, h.unheld⟩
    show c < (s.channels.modify _ _).length
    rw [List.length_modify]
    exact h.lt
  | _ => exact h

variable {idleTimeout : Nat} {failedRx : Option Bool} {s s' : Sys} {c : Nat}

/-- A retired channel stays retired along every run. -/
theorem retired_path {as : List Action} (hr : Reachable (system idleTimeout failedRx) s)
    (h : s.Retired c) (hp : Path (system idleTimeout failedRx) s as s') : s'.Retired c :=
  hp.induct hr h fun _ _ _ _ _ hs hret => retired_step hret (step_of_eq hs)

theorem unwatched_of_retired (hf : s.Followed) (h : s.Retired c) : s.watched c = false := by
  apply List.any_eq_false.mpr
  intro pc hpc hrecv
  cases pc with
  | live sub =>
    have hsub : sub.rtp = c := beq_iff_eq.mp hrecv
    exact h.unstored (hf _ hpc c (by rw [← hsub]; rfl))
  | _ => cases hrecv

/-- A channel with a watchdog is retired once it is not the stored one. -/
theorem retired_of_watchdog (hchannels : s.Channels) {w : Nat} {d : Watchdog}
    (hw : s.watchdogs[w]? = some d) (hc : s.rtpTx ≠ some d.tx) : s.Retired d.tx := by
  refine ⟨hchannels.lt_of_watchdog hw, hc, ?_⟩
  intro pc hpc
  obtain ⟨i, hi⟩ := List.mem_iff_getElem?.mp hpc
  exact hchannels.ne_of_call hi hw

theorem stored_lt (hchannels : s.Channels) (hwatchdogs : s.WatchdogsOk) (hc : s.rtpTx = some c) :
    c < s.channels.length := by
  rcases hwatchdogs.spawned c hc with ⟨d, hd, hdc⟩ | ⟨j, hj⟩
  · obtain ⟨w, hw⟩ := List.mem_iff_getElem?.mp hd
    exact hdc ▸ hchannels.lt_of_watchdog hw
  · obtain ⟨i, hi⟩ := List.mem_iff_getElem?.mp hj
    exact hchannels.lt_of_call hi rfl

/-- While a timer tears down, no call holds a channel. -/
theorem tx_of_tearing (hv : s.Viewers) (ht : .tearing ∈ s.timers) {pc : SubscribePc}
    (hpc : pc ∈ s.calls) : pc.tx? = none := by
  have hpre := (hv.tearing ht).1 pc hpc
  cases pc with
  | connect | connected | spawnWatchdog => exact absurd (hpre rfl) Bool.false_ne_true
  | _ => rfl

theorem retired_of_teardown (hv : s.Viewers) (hchannels : s.Channels) (hwatchdogs : s.WatchdogsOk)
    {t : Nat} (ht : s.timers[t]? = some .tearing) (hc : s.rtpTx = some c) :
    (s.teardown t).Retired c := by
  have hlt : c < s.channels.length := stored_lt hchannels hwatchdogs hc
  refine ⟨hlt, fun h => (by cases h), ?_⟩
  intro pc hpc
  rw [tx_of_tearing hv (List.mem_of_getElem? ht) hpc]
  exact fun h => by cases h

def Action.ofWatchdog (w : Nat) : Action → Bool
  | watchdog v | watchdogSleep v _ | watchdogConnect v _ | watchdogResult v _ => v == w
  | _ => false

/-- The stored stop handle is dropped only by a teardown or by the stored channel's watchdog. -/
theorem handle_dropped_cases (hslots : s.Slots) {a : Action} (hs : Step s a s') {j : Nat}
    (hj : s.stop = some j) (hj' : s'.stop ≠ some j) :
    (∃ t, s.timers[t]? = some .tearing ∧ s' = s.teardown t) ∨
      ∃ (w : Nat) (d : Watchdog) (k : Nat), s.watchdogs[w]? = some d ∧ d.pc = .connected k ∧
        s.rtpTx = some d.tx := by
  cases hs with
  | install hi =>
    have hst := hslots.connecting_of_owner hi rfl
    have hnone := (hslots.empty (by rw [hst]; decide)).2.1
    rw [hj] at hnone
    cases hnone
  | @reinstall w k d hw hpc hl hc => exact Or.inr ⟨w, d, k, hw, hpc, hc⟩
  | @teardown t ht => exact Or.inl ⟨t, ht, rfl⟩
  | _ => exact absurd hj hj'

/-- A watchdog whose channel is not the stored one leaves the slots alone, and its late result is
stopped as it returns. -/
theorem retired_watchdog_step (hsessions : s.SessionsOk) {a : Action} (hs : Step s a s') {w : Nat}
    {d : Watchdog} (hw : s.watchdogs[w]? = some d) (hc : s.rtpTx ≠ some d.tx)
    (ha : a.ofWatchdog w = true) :
    s'.state = s.state ∧ s'.stop = s.stop ∧ s'.rtpTx = s.rtpTx ∧
      ∀ j, d.pc = .connected j →
        (∃ x, s'.sessions[j]? = some x ∧ x.stopped = true) ∧
          s'.watchdogs[w]? = some { d with pc := .exited } := by
  have same {v : Nat} {d' : Watchdog} (hv : s.watchdogs[v]? = some d') (hvw : (v == w) = true) :
      d' = d := by
    rw [beq_iff_eq.mp hvw] at hv
    exact Option.some.inj (hv.symm.trans hw)
  cases hs with
  | sawEnded hv hpc | sawClosed hv hpc | startRetrying hv hpc | wakeSame hv hpc | wakeOther hv hpc
  | keepRetrying hv hpc | sawFailed hv hpc | watchdogSleep hv hpc | watchdogConnect hv hpc
  | watchdogOk hv hpc | watchdogErr hv hpc =>
    refine ⟨rfl, rfl, rfl, ?_⟩
    intro j hconn
    rw [same hv ha, hconn] at hpc
    cases hpc
  | exitNoViewers hv hpc =>
    refine ⟨rfl, rfl, rfl, ?_⟩
    intro j hconn
    rw [same hv ha, hconn] at hpc
    rcases hpc with hpc | hpc <;> cases hpc
  | reinstall hv hpc hl hstored =>
    rw [same hv ha] at hstored
    exact absurd hstored hc
  | @discard v k d' hv hpc =>
    obtain rfl := same hv ha
    obtain rfl := beq_iff_eq.mp ha
    refine ⟨rfl, rfl, rfl, fun j hconn => ⟨?_, ?_⟩⟩
    · have hkj : k = j := by
        rw [hpc] at hconn
        exact WatchdogPc.connected.inj hconn
      subst hkj
      have hheld := hsessions.watchdog d' (List.mem_of_getElem? hv)
      rw [hpc] at hheld
      obtain ⟨x, hx, -⟩ := hheld
      refine ⟨{ x with stopped := true }, ?_, rfl⟩
      show (s.sessions.modify k _)[k]? = _
      rw [List.getElem?_modify_eq, hx]
      rfl
    · exact Pool.getElem?_set_self hv
  | _ => cases ha

/-- Whenever the stored stop handle is dropped, its session had ended on its own or nobody receives
from it, now or in any later state. A watchdog whose channel is not the stored one never changes the
state, the stop handle or `rtp_tx`: its channel is never stored again, and its late result is stopped
as it returns. -/
theorem stopHandle_dropped (h : Reachable (system idleTimeout failedRx) s) {a : Action}
    (hs : s.step a = some s') :
    (∀ j, s.stop = some j → s'.stop ≠ some j →
        s.fired j = true ∨ ∃ x, s.sessions[j]? = some x ∧
          ∀ as t, Path (system idleTimeout failedRx) s' as t → t.watched x.tx = false) ∧
      ∀ w d, s.watchdogs[w]? = some d → s.rtpTx ≠ some d.tx →
        (∀ as t, Path (system idleTimeout failedRx) s as t → t.rtpTx ≠ some d.tx) ∧
          (a.ofWatchdog w = true →
            s'.state = s.state ∧ s'.stop = s.stop ∧ s'.rtpTx = s.rtpTx ∧
              ∀ j, d.pc = .connected j →
                (∃ x, s'.sessions[j]? = some x ∧ x.stopped = true) ∧
                  s'.watchdogs[w]? = some { d with pc := .exited }) := by
  have hstep := step_of_eq hs
  have hr' : Reachable (system idleTimeout failedRx) s' := .step h trivial hs
  refine ⟨?_, fun w d hw hc => ⟨?_, ?_⟩⟩
  · intro j hj hj'
    rcases handle_dropped_cases (slots_of_reachable h) hstep hj hj' with
      ⟨t, ht, rfl⟩ | ⟨w, d, k, hw, hpc, hc⟩
    · obtain ⟨c, hc, x, hx, hxc, -⟩ := (sessions_of_reachable h).stored j hj
      refine Or.inr ⟨x, hx, fun as u hp => ?_⟩
      have hret := retired_of_teardown (viewers_of_reachable h) (channels_of_reachable h)
        (watchdogs_of_reachable h) ht hc
      rw [hxc]
      exact unwatched_of_retired (followed_of_reachable (hp.reachableWhere hr'))
        (retired_path hr' hret hp)
    · left
      have hfollows := (watchdogs_of_reachable h).follows d (List.mem_of_getElem? hw) hc
      have hended := hfollows.ended (by rw [hpc]; rfl)
      rw [hj] at hended
      exact hended
  · intro as t hp
    exact (retired_path h (retired_of_watchdog (channels_of_reachable h) hw hc) hp).unstored
  · intro ha
    exact retired_watchdog_step (sessions_of_reachable h) hstep hw hc ha

/-- Session 0 ends under its viewer and is being reconnected when the viewer leaves and the idle timer
tears the supervisor down. A new viewer brings up session 2, and the reconnect comes back too late. -/
theorem stopHandle_dropped_late : ∃ s s', Reachable (system 60 none) s ∧
    s.step (.watchdog 0) = some s' ∧ s.stop = some 2 ∧ s'.stop = some 2 ∧
    ∃ x, s'.sessions[1]? = some x ∧ x.stopped = true := by
  obtain ⟨s, hr, hp⟩ := exists_reachable_of_run (system 60 none)
    (bringUp 0 0 ++ [.sessionEnds 0, .watchdog 0, .watchdog 0, .watchdogSleep 0 1000,
      .tick 1000000000, .watchdog 0, .watchdog 0, .watchdogConnect 0 stubParams, .register 1,
      .dropSubscription 0, .viewerEvent, .tick 60, .timer 0, .timer 0] ++ bringUp 1 2 ++
      [.watchdogResult 0 .ok])
    (fun s => (s.step (.watchdog 0)).isSome && decide (s.stop = some 2 ∧
      s.watchdogs[0]?.map (fun d : Watchdog => (d.tx, d.pc)) = some (0, .connected 1) ∧
      s.rtpTx = some 1))
    (by decide +kernel)
  obtain ⟨hsome, hp⟩ := Bool.and_eq_true_iff.mp hp
  obtain ⟨s', hs⟩ := Option.isSome_iff_exists.mp hsome
  obtain ⟨hstop, hd, hrtp⟩ := of_decide_eq_true hp
  obtain ⟨d, hw, hd⟩ := Option.map_eq_some_iff.mp hd
  obtain ⟨htx, hpc⟩ := Prod.mk.inj hd
  have hlate := ((stopHandle_dropped hr hs).2 0 d hw (by rw [hrtp, htx]; decide)).2 rfl
  exact ⟨s, s', hr, hs, hstop, hlate.2.1.trans hstop, (hlate.2.2.2 1 hpc).1⟩

end Buddy3dProxy.Supervisor
