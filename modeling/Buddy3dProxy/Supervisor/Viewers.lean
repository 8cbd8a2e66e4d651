import Buddy3dProxy.Supervisor.Steps

/-!
# The viewer count

`viewer_count` is raised by `subscribe()` and lowered by the viewer-event loop. The invariant
`ViewersInv` says whom it counts: every call that has been counted and has not sent `Detached` since,
and every `Detached` still queued. It also orders the queue (a call sends `Attached` before its own
`Detached`) and says what `teardown_session` knows while it holds the mutex: whoever is counted by
now has not been inside the mutex yet.
-/

namespace Buddy3dProxy.Supervisor

open Transition

namespace SubscribePc

/-- The call is in progress: counted, and neither returned nor rolled back. -/
def inProgress : SubscribePc → Bool
  | counted | lockState | startConnect | connect _ _ | connectFailed _ | connected _ _
  | spawnWatchdog _ _ | watchSubscribe | watchRead | watchChanged _ | watchDone | lockFinal
  | rollback _ _ => true
  | _ => false

/-- The call returned a subscription that has not been dropped. -/
def isLive : SubscribePc → Bool
  | live _ => true
  | _ => false

/-- The call panicked or was cancelled: it stays counted for good. -/
def leaked : SubscribePc → Bool
  | panicked | cancelled _ => true
  | _ => false

/-- The call was counted and has not sent `Detached`. -/
def isCounted (pc : SubscribePc) : Bool := pc.inProgress || pc.isLive || pc.leaked

/-- A counted call that has also sent `Attached`. -/
def announced (pc : SubscribePc) : Bool := pc.isCounted && pc != counted

/-- The call has not been inside the state mutex. -/
def preLock : SubscribePc → Bool
  | counted | lockState | cancelled false => true
  | _ => false

end SubscribePc

open SubscribePc

theorem lockFree_iff {s : Sys} : s.lockFree = true ↔ TimerPc.tearing ∉ s.timers := by
  simp only [Sys.lockFree, List.all_eq_true, bne_iff_ne, ne_eq]
  exact ⟨fun h hm => h _ hm rfl, fun h pc hm he => h (he ▸ hm)⟩

structure ViewersInv (count : Int) (calls : List SubscribePc) (events : List ViewerEvent)
    (timers : List TimerPc) : Prop where
  /-- Whom the count counts. -/
  count_eq : count = calls.countP isCounted + events.count .detached
  /-- Every queued `Attached` is that of a call which is counted or whose `Detached` follows. -/
  order : ∀ q, q <:+ events → q.count .attached ≤ q.count .detached + calls.countP announced
  /-- While a timer holds the mutex with no viewer found, whoever is counted has not entered it. -/
  tearing : .tearing ∈ timers →
    (∀ pc ∈ calls, pc.isCounted = true → pc.preLock = true) ∧ events.count .detached = 0

namespace ViewersInv

variable {n : Int} {calls : List SubscribePc} {ev : List ViewerEvent} {tm : List TimerPc}
  {i : Nat} {pc pc' : SubscribePc}

theorem move (h : ViewersInv n calls ev tm) (hi : calls[i]? = some pc)
    (hc : pc'.isCounted = pc.isCounted) (ha : pc'.announced = pc.announced)
    (hp : pc.preLock = true → pc'.preLock = true ∨ .tearing ∉ tm) :
    ViewersInv n (calls.set i pc') ev tm := by
  refine ⟨?_, ?_, fun ht => ⟨?_, (h.tearing ht).2⟩⟩
  · rw [Pool.countP_set_eq hi hc]; exact h.count_eq
  · rw [Pool.countP_set_eq hi ha]; exact h.order
  · have hall := (h.tearing ht).1
    apply Pool.forall_set hall
    intro hb
    have hpre := hall pc (List.mem_of_getElem? hi) (hc ▸ hb)
    exact (hp hpre).resolve_right fun hn => hn ht

theorem moveLocked (h : ViewersInv n calls ev tm) (hi : calls[i]? = some pc)
    (hl : .tearing ∉ tm) (hc : pc'.isCounted = pc.isCounted) (ha : pc'.announced = pc.announced) :
    ViewersInv n (calls.set i pc') ev tm :=
  h.move hi hc ha fun _ => Or.inr hl

theorem moveAfter (h : ViewersInv n calls ev tm) (hi : calls[i]? = some pc)
    (hp : pc.preLock = false) (hc : pc'.isCounted = pc.isCounted)
    (ha : pc'.announced = pc.announced) : ViewersInv n (calls.set i pc') ev tm :=
  h.move hi hc ha fun hp' => absurd (hp.symm.trans hp') Bool.false_ne_true

/-- A counted call that has been inside the mutex excludes a teardown. -/
theorem not_tearing (h : ViewersInv n calls ev tm) (hi : calls[i]? = some pc)
    (hc : pc.isCounted = true) (hp : pc.preLock = false) : .tearing ∉ tm := by
  intro ht
  have hpre := (h.tearing ht).1 pc (List.mem_of_getElem? hi) hc
  rw [hp] at hpre
  exact Bool.false_ne_true hpre

/-- A viewer sends its `Detached` and is no longer counted itself. -/
theorem detach (h : ViewersInv n calls ev tm) (hi : calls[i]? = some pc)
    (hpc : pc.announced = true) (hpre : pc.preLock = false) (hpc' : pc'.isCounted = false) :
    ViewersInv n (calls.set i pc') (ev ++ [.detached]) tm := by
  have hc : pc.isCounted = true := (Bool.and_eq_true_iff.mp hpc).1
  have hann : pc'.announced = false := by simp [announced, hpc']
  have hcount := Pool.countP_set_lose (p := isCounted) hi hc hpc'
  have hcalls := Pool.countP_set_lose (p := announced) hi hpc hann
  refine ⟨?_, ?_, fun ht => absurd ht (h.not_tearing hi hc hpre)⟩
  · rw [h.count_eq, List.count_append, List.count_singleton_self]
    omega
  · intro q hq
    rcases List.suffix_concat_iff.mp hq with rfl | ⟨q', rfl, hq'⟩
    · simp
    · have := h.order q' hq'
      simp only [List.count_append, List.count_singleton_self]
      simp only [List.count_cons, List.count_nil, beq_iff_eq, reduceCtorEq, if_false]
      omega

theorem subscribe (h : ViewersInv n calls ev tm) :
    ViewersInv (n + 1) (calls ++ [.counted]) ev tm := by
  refine ⟨?_, ?_, fun ht => ⟨?_, (h.tearing ht).2⟩⟩
  · have hone : [SubscribePc.counted].countP isCounted = 1 := rfl
    rw [h.count_eq, List.countP_append, hone]
    omega
  · intro q hq
    have := h.order q hq
    rw [List.countP_append]
    omega
  · exact Pool.forall_append (h.tearing ht).1 fun _ => rfl

theorem sendAttached (h : ViewersInv n calls ev tm) (hi : calls[i]? = some .counted) :
    ViewersInv n (calls.set i .lockState) (ev ++ [.attached]) tm := by
  have hgain := Pool.countP_set_gain (p := announced) (b := .lockState) hi rfl rfl
  refine ⟨?_, ?_, fun ht => ⟨?_, ?_⟩⟩
  · rw [Pool.countP_set_eq (p := isCounted) (b := .lockState) hi rfl, h.count_eq]
    simp
  · intro q hq
    rcases List.suffix_concat_iff.mp hq with rfl | ⟨q', rfl, hq'⟩
    · simp
    · have := h.order q' hq'
      simp only [List.count_append, List.count_singleton_self]
      omega
  · exact Pool.forall_set (h.tearing ht).1 fun _ => rfl
  · simpa using (h.tearing ht).2

/-- The loop takes an `Attached`. Timers change, but none starts a teardown. -/
theorem onAttached {rest : List ViewerEvent} {tm' : List TimerPc}
    (h : ViewersInv n calls (.attached :: rest) tm) (ht : .tearing ∈ tm' → .tearing ∈ tm) :
    ViewersInv n calls rest tm' := by
  refine ⟨?_, fun q hq => h.order q (hq.trans (List.suffix_cons _ _)), ?_⟩
  · simpa using h.count_eq
  · intro hm
    simpa using h.tearing (ht hm)

theorem onDetached {rest : List ViewerEvent} {tm' : List TimerPc}
    (h : ViewersInv n calls (.detached :: rest) tm) (ht : .tearing ∈ tm' → .tearing ∈ tm) :
    ViewersInv (n - 1) calls rest tm' := by
  refine ⟨?_, fun q hq => h.order q (hq.trans (List.suffix_cons _ _)), ?_⟩
  · rw [h.count_eq, List.count_cons_self]
    omega
  · intro hm
    have := (h.tearing (ht hm)).2
    rw [List.count_cons_self] at this
    omega

theorem timers {tm' : List TimerPc} (h : ViewersInv n calls ev tm)
    (ht : .tearing ∈ tm' → .tearing ∈ tm) : ViewersInv n calls ev tm' :=
  ⟨h.count_eq, h.order, fun hm => h.tearing (ht hm)⟩

/-- Nobody is counted and no `Detached` is queued when the count is not positive. -/
theorem of_count_le_zero (h : ViewersInv n calls ev tm) (hn : n ≤ 0) :
    calls.countP isCounted = 0 ∧ ev.count .detached = 0 := by
  have := h.count_eq
  omega

theorem tears {tm' : List TimerPc} (h : ViewersInv n calls ev tm) (hn : n ≤ 0) :
    ViewersInv n calls ev tm' := by
  obtain ⟨hc, hd⟩ := h.of_count_le_zero hn
  refine ⟨h.count_eq, h.order, fun _ => ⟨?_, hd⟩⟩
  intro pc hpc hcounted
  rw [Pool.of_countP_eq_zero hc hpc] at hcounted
  exact absurd hcounted Bool.false_ne_true

theorem count_pos (h : ViewersInv n calls ev tm) (hi : calls[i]? = some pc)
    (hc : pc.isCounted = true) : 0 < n := by
  have := Pool.countP_pos hi hc
  have := h.count_eq
  omega

end ViewersInv

theorem tearing_of_mem_abort {s : Sys} {t : Nat} (h : .tearing ∈ s.abortTimer t) :
    .tearing ∈ s.timers := by
  obtain ⟨k, hk⟩ := List.mem_iff_getElem?.mp h
  rw [Sys.abortTimer, List.getElem?_modify] at hk
  obtain ⟨pc, hpc, he⟩ := Option.map_eq_some_iff.mp hk
  refine List.mem_iff_getElem?.mpr ⟨k, ?_⟩
  rw [hpc]
  split at he
  · cases pc with
    | sleeping deadline =>
      simp only at he
      split at he <;> cases he
    | tearing => rfl
    | late | done | aborted => cases he
  · rw [he]

theorem tearing_of_mem_set {tm : List TimerPc} {t : Nat} {pc : TimerPc} (hpc : pc ≠ .tearing)
    (h : .tearing ∈ tm.set t pc) : .tearing ∈ tm :=
  (List.mem_or_eq_of_mem_set h).resolve_right fun he => hpc he.symm

def Sys.Viewers (s : Sys) : Prop := ViewersInv s.viewerCount s.calls s.viewerEvents s.timers

theorem viewers_new (idleTimeout : Nat) (failedRx : Option Bool) (now : Nat) :
    (Sys.new idleTimeout failedRx now).Viewers :=
  ⟨rfl, fun q hq => by simp [Sys.new, List.suffix_nil.mp hq], fun h => by simp [Sys.new] at h⟩

theorem viewers_step {s s' : Sys} {a : Action} (h : s.Viewers) (hs : Step s a s') : s'.Viewers := by
  cases hs with
  | subscribe => exact h.subscribe
  | sendAttached hi => exact h.sendAttached hi
  | rejectBudget hi hl => exact h.moveLocked hi (lockFree_iff.mp hl) rfl rfl
  | enterConnecting hi hl => exact h.moveLocked hi (lockFree_iff.mp hl) rfl rfl
  | foundConnecting hi hl => exact h.moveLocked hi (lockFree_iff.mp hl) rfl rfl
  | foundStreaming hi hl => exact h.moveLocked hi (lockFree_iff.mp hl) rfl rfl
  | startConnect hi => exact h.moveAfter hi rfl rfl rfl
  | callConnectOk hi => exact h.moveAfter hi rfl rfl rfl
  | callConnectErr hi => exact h.moveAfter hi rfl rfl rfl
  | resetToIdle hi => exact h.moveAfter hi rfl rfl rfl
  | noReset hi => exact h.moveAfter hi rfl rfl rfl
  | install hi => exact h.moveAfter hi rfl rfl rfl
  | spawnWatchdog hi => exact h.moveAfter hi rfl rfl rfl
  | watchSubscribe hi => exact h.moveAfter hi rfl rfl rfl
  | watchRead hi =>
    refine h.moveAfter hi rfl ?_ ?_ <;> (unfold Sys.watchOutcome; split <;> rfl)
  | watchChanged hi => exact h.moveAfter hi rfl rfl rfl
  | watchDone hi => exact h.moveAfter hi rfl rfl rfl
  | lockFinal hi =>
    refine h.moveAfter hi rfl ?_ ?_ <;> (unfold Sys.finalOutcome; split <;> rfl)
  | rollback hi => exact h.detach hi rfl rfl rfl
  | returning hi => exact h.moveAfter hi rfl rfl rfl
  | cancelLock hi => exact h.move hi rfl rfl fun _ => Or.inl rfl
  | cancelConnect hi => exact h.moveAfter hi rfl rfl rfl
  | cancelFailed hi => exact h.moveAfter hi rfl rfl rfl
  | cancelConnected hi => exact h.moveAfter hi rfl rfl rfl
  | cancelWaiting hi => exact h.moveAfter hi rfl rfl rfl
  | cancelFinal hi => exact h.moveAfter hi rfl rfl rfl
  | dropSubscription hi => exact h.detach hi rfl rfl rfl
  | play hi => exact h.moveAfter hi rfl rfl rfl
  | forward hi => exact h.moveAfter hi rfl rfl rfl
  | @onAttached rest hq =>
    have h' : ViewersInv s.viewerCount s.calls (.attached :: rest) s.timers := hq ▸ h
    apply h'.onAttached
    intro ht
    show TimerPc.tearing ∈ s.timers
    cases hid : s.idleTimer with
    | none => simpa [Sys.onAttached, hid] using ht
    | some t =>
      have ht : TimerPc.tearing ∈ s.abortTimer t := by simpa [Sys.onAttached, hid] using ht
      exact tearing_of_mem_abort ht
  | onDetached hq => exact ViewersInv.onDetached (hq ▸ h) id
  | @onLastDetached rest hq =>
    have h' : ViewersInv s.viewerCount s.calls (.detached :: rest) s.timers := hq ▸ h
    apply h'.onDetached
    intro ht
    rcases List.mem_append.mp ht with ht | ht
    · exact ht
    · simp at ht
  | timerGivesUp => exact h.timers (tearing_of_mem_set (by decide))
  | timerTears ht hd hl hv => exact h.tears (by omega)
  | teardown => exact h.timers (tearing_of_mem_set (by decide))
  | teardownIdle | timerStops => exact h.timers (tearing_of_mem_set (by decide))
  | _ => exact h

theorem viewers_of_reachable {idleTimeout : Nat} {failedRx : Option Bool} {s : Sys}
    (h : Reachable (system idleTimeout failedRx) s) : s.Viewers :=
  invariant_of_steps (viewers_new _ _ _) (fun _ _ hv hs => viewers_step hv hs) h

/-! ## The viewer count when no call has panicked or been cancelled -/

/-- No call has panicked or been cancelled. Both points are final, so this says it of the whole run
that led to the state. -/
def Sys.Clean (s : Sys) : Prop := ∀ pc ∈ s.calls, pc.leaked = false

instance (s : Sys) : Decidable s.Clean :=
  inferInstanceAs (Decidable (∀ pc ∈ s.calls, pc.leaked = false))

theorem countP_isCounted {calls : List SubscribePc} (h : ∀ pc ∈ calls, pc.leaked = false) :
    calls.countP isCounted = calls.countP inProgress + calls.countP isLive := by
  induction calls with
  | nil => rfl
  | cons pc calls ih =>
    have hpc := h pc List.mem_cons_self
    have ih := ih fun x hx => h x (List.mem_cons_of_mem _ hx)
    have hone : (if pc.isCounted then 1 else 0) =
        (if pc.inProgress then 1 else 0) + if pc.isLive then 1 else 0 := by
      cases pc with
      | panicked | cancelled => cases hpc
      | _ => rfl
    rw [List.countP_cons, List.countP_cons, List.countP_cons, ih, hone]
    omega

/-- The queue is empty once nobody is counted and no `Detached` is queued: every `Attached` has been
taken as well. -/
theorem ViewersInv.events_eq_nil {n : Int} {calls : List SubscribePc} {ev : List ViewerEvent}
    {tm : List TimerPc} (h : ViewersInv n calls ev tm) (hn : n ≤ 0) : ev = [] := by
  obtain ⟨hc, hd⟩ := h.of_count_le_zero hn
  have hann : calls.countP announced = 0 := by
    apply List.countP_eq_zero.mpr
    intro pc hpc ha
    have hcounted : pc.isCounted = true := (Bool.and_eq_true_iff.mp ha).1
    rw [Pool.of_countP_eq_zero hc hpc] at hcounted
    cases hcounted
  have ha := h.order ev List.suffix_rfl
  rw [hd, hann] at ha
  cases ev with
  | nil => rfl
  | cons e ev =>
    cases e with
    | attached => simp at ha
    | detached => simp at hd

/-- The viewer count is the number of calls in progress, of live subscriptions and of queued
`Detached` events. It is never negative, and it is zero exactly when every viewer is gone and every
event has been processed. -/
theorem viewerCount_eq {idleTimeout : Nat} {failedRx : Option Bool} {s : Sys}
    (h : Reachable (system idleTimeout failedRx) s) (hclean : s.Clean) :
    s.viewerCount = s.calls.countP inProgress + s.calls.countP isLive +
        s.viewerEvents.count .detached ∧
      0 ≤ s.viewerCount ∧
      (s.viewerCount = 0 ↔
        (∀ pc ∈ s.calls, pc.inProgress = false ∧ pc.isLive = false) ∧ s.viewerEvents = []) := by
  have hv : ViewersInv s.viewerCount s.calls s.viewerEvents s.timers := viewers_of_reachable h
  have hsplit := countP_isCounted hclean
  have hcount := hv.count_eq
  refine ⟨by omega, by omega, fun h0 => ⟨?_, hv.events_eq_nil (by omega)⟩, ?_⟩
  · intro pc hpc
    exact ⟨Pool.of_countP_eq_zero (p := inProgress) (by omega) hpc,
      Pool.of_countP_eq_zero (p := isLive) (by omega) hpc⟩
  · rintro ⟨hgone, hq⟩
    have hp : s.calls.countP inProgress = 0 :=
      List.countP_eq_zero.mpr fun pc hpc => by simp [(hgone pc hpc).1]
    have hl : s.calls.countP isLive = 0 :=
      List.countP_eq_zero.mpr fun pc hpc => by simp [(hgone pc hpc).2]
    rw [hq, List.count_nil] at hcount
    omega

/-- One viewer is live, one call has just been counted and one viewer's `Detached` is queued. -/
theorem viewerCount_eq_three : ∃ s, Reachable (system 60 none) s ∧ s.viewerCount = 3 ∧
    s.viewerCount = s.calls.countP inProgress + s.calls.countP isLive +
      s.viewerEvents.count .detached := by
  obtain ⟨s, hr, hp⟩ := exists_reachable_of_run (system 60 none)
    (bringUp 0 0 ++ [.subscribe, .subscribe, .call 1, .call 1, .call 1, .dropSubscription 1])
    (fun s => decide (s.Clean ∧ s.viewerCount = 3)) (by decide +kernel)
  obtain ⟨hclean, hcount⟩ := of_decide_eq_true hp
  exact ⟨s, hr, hcount, (viewerCount_eq hr hclean).1⟩

end Buddy3dProxy.Supervisor
