import Buddy3dProxy.Supervisor.Slots

/-!
# The grace period

What `idle_timeout` promises: a session that has a viewer keeps its channel and its parameters for
that long after, whoever comes and goes. A timer that was started before fires on a viewer, since the
`Attached` that aborts it is taken before any `Detached` of a later viewer (`TimerInv`); a timer that
is started from now on has its deadline past the period. What breaks the promise is an abort that comes
too late: a timer that is due then may still find the viewer gone again.
-/

namespace Buddy3dProxy.Supervisor

open Transition SubscribePc

/-! ## The timer of the viewer-event loop -/

/-- Only the timer whose handle the loop keeps can still fire, and while it keeps one it has taken
the `Attached` of nobody who is counted. -/
structure TimerInv (idleTimer : Option Nat) (timers : List TimerPc) (calls : List SubscribePc)
    (events : List ViewerEvent) : Prop where
  handle : ∀ t d, timers[t]? = some (.sleeping d) → idleTimer = some t
  untaken : idleTimer.isSome = true →
    events.count .attached = events.count .detached + calls.countP announced

namespace TimerInv

variable {h : Option Nat} {tm : List TimerPc} {calls : List SubscribePc} {ev : List ViewerEvent}
  {i t : Nat} {pc pc' : SubscribePc}

theorem move (hinv : TimerInv h tm calls ev) (hi : calls[i]? = some pc)
    (ha : pc'.announced = pc.announced) : TimerInv h tm (calls.set i pc') ev := by
  refine ⟨hinv.handle, ?_⟩
  rw [Pool.countP_set_eq hi ha]
  exact hinv.untaken

theorem sendAttached (hinv : TimerInv h tm calls ev) (hi : calls[i]? = some .counted) :
    TimerInv h tm (calls.set i .lockState) (ev ++ [.attached]) := by
  refine ⟨hinv.handle, fun hh => ?_⟩
  have hset := Pool.countP_set_gain (p := announced) (b := .lockState) hi rfl rfl
  have huntaken := hinv.untaken hh
  simp only [List.count_append, List.count_cons, List.count_nil, beq_iff_eq, reduceCtorEq, if_false,
    if_true]
  omega

theorem detach (hinv : TimerInv h tm calls ev) (hi : calls[i]? = some pc)
    (hpc : pc.announced = true) (hpc' : pc'.announced = false) :
    TimerInv h tm (calls.set i pc') (ev ++ [.detached]) := by
  refine ⟨hinv.handle, fun hh => ?_⟩
  have hset := Pool.countP_set_lose (p := announced) hi hpc hpc'
  have huntaken := hinv.untaken hh
  simp only [List.count_append, List.count_cons, List.count_nil, beq_iff_eq, reduceCtorEq, if_false,
    if_true]
  omega

/-- A timer leaves its sleep. -/
theorem wake (hinv : TimerInv h tm calls ev) {pc : TimerPc} (hpc : ∀ d, pc ≠ .sleeping d) :
    TimerInv h (tm.set t pc) calls ev := by
  refine ⟨?_, hinv.untaken⟩
  intro u d hu
  rcases Pool.getElem?_set_cases hu with ⟨-, hsleep⟩ | ⟨-, hold⟩
  · exact absurd hsleep.symm (hpc d)
  · exact hinv.handle u d hold

end TimerInv

def Sys.Timer (s : Sys) : Prop := TimerInv s.idleTimer s.timers s.calls s.viewerEvents

/-- A `Detached` at the head of the queue finds no handle. -/
theorem idleTimer_of_detached {s : Sys} (hv : s.Viewers) (h : s.Timer) {rest : List ViewerEvent}
    (hq : s.viewerEvents = .detached :: rest) : s.idleTimer = none := by
  cases hid : s.idleTimer with
  | none => rfl
  | some t =>
    have huntaken := h.untaken (by rw [hid]; rfl)
    have horder := hv.order rest (by rw [hq]; exact List.suffix_cons _ _)
    rw [hq] at huntaken
    simp only [List.count_cons, beq_iff_eq, reduceCtorEq, if_false, if_true] at huntaken
    omega

theorem announced_of_counted {calls : List SubscribePc} (h : calls.countP isCounted = 0) :
    calls.countP announced = 0 := by
  refine List.countP_eq_zero.mpr ?_
  intro pc hpc hann
  have hcounted : pc.isCounted = true := (Bool.and_eq_true_iff.mp hann).1
  rw [Pool.of_countP_eq_zero h hpc] at hcounted
  cases hcounted

/-- After an `Attached` no timer sleeps. -/
theorem not_sleeping_of_abort {s : Sys} (h : s.Timer) {t d : Nat} :
    ((s.idleTimer.map s.abortTimer).getD s.timers)[t]? ≠ some (.sleeping d) := by
  intro ht
  cases hid : s.idleTimer with
  | none =>
    rw [hid] at ht
    have hhandle := h.handle t d ht
    rw [hid] at hhandle
    cases hhandle
  | some u =>
    rw [hid] at ht
    have ht : (s.abortTimer u)[t]? = some (.sleeping d) := ht
    rw [Sys.abortTimer, List.getElem?_modify] at ht
    obtain ⟨pc, hpc, he⟩ := Option.map_eq_some_iff.mp ht
    by_cases hut : u = t
    · rw [if_pos hut] at he
      cases pc with
      | sleeping deadline =>
        simp only at he
        split at he <;> cases he
      | _ => cases he
    · rw [if_neg hut] at he
      have hhandle := h.handle t d (he ▸ hpc)
      rw [hid] at hhandle
      exact hut (Option.some.inj hhandle)

theorem timer_step {s s' : Sys} {a : Action} (hv : s.Viewers) (h : s.Timer) (hs : Step s a s') :
    s'.Timer := by
  cases hs with
  | subscribe =>
    refine ⟨h.handle, fun hh => ?_⟩
    have huntaken := h.untaken hh
    show _ = _ + (s.calls ++ [SubscribePc.counted]).countP announced
    rw [List.countP_append]
    exact huntaken
  | sendAttached hi => exact h.sendAttached hi
  | rejectBudget hi | enterConnecting hi | foundConnecting hi | foundStreaming hi | startConnect hi
  | callConnectOk hi | callConnectErr hi | resetToIdle hi | noReset hi | install hi
  | spawnWatchdog hi | watchSubscribe hi | watchChanged hi | watchDone hi | returning hi
  | cancelLock hi | cancelConnect hi | cancelFailed hi | cancelConnected hi | cancelWaiting hi
  | cancelFinal hi | play hi | forward hi => exact h.move hi rfl
  | watchRead hi => exact h.move hi (by unfold Sys.watchOutcome; split <;> rfl)
  | lockFinal hi => exact h.move hi (by unfold Sys.finalOutcome; split <;> rfl)
  | rollback hi => exact h.detach hi rfl rfl
  | dropSubscription hi => exact h.detach hi rfl rfl
  | onAttached => exact ⟨fun t d ht => absurd ht (not_sleeping_of_abort h), fun hh => by cases hh⟩
  | onDetached hq =>
    have hnone := idleTimer_of_detached hv h hq
    refine ⟨h.handle, fun hh => ?_⟩
    have hh : s.idleTimer.isSome = true := hh
    rw [hnone] at hh
    cases hh
  | @onLastDetached rest hq hcount =>
    -- nobody is left, neither in the queue nor among the calls
    have hnone := idleTimer_of_detached hv h hq
    have hv : ViewersInv s.viewerCount s.calls (.detached :: rest) s.timers := hq ▸ hv
    have hleft : ViewersInv (s.viewerCount - 1) s.calls rest s.timers := hv.onDetached id
    have hann := announced_of_counted (hleft.of_count_le_zero hcount).1
    obtain rfl := hleft.events_eq_nil hcount
    refine ⟨?_, fun _ => ?_⟩
    · intro t d ht
      rcases Pool.getElem?_append_cases ht with hold | ⟨rfl, -⟩
      · have hhandle := h.handle t d hold
        rw [hnone] at hhandle
        cases hhandle
      · rfl
    · show 0 = 0 + s.calls.countP announced
      rw [hann]
  | timerGivesUp => exact h.wake fun _ => TimerPc.noConfusion
  | timerTears => exact h.wake fun _ => TimerPc.noConfusion
  | teardown => exact h.wake fun _ => TimerPc.noConfusion
  | teardownIdle => exact h.wake fun _ => TimerPc.noConfusion
  | timerStops => exact h.wake fun _ => TimerPc.noConfusion
  | _ => exact h

variable {idleTimeout : Nat} {failedRx : Option Bool} {s s' : Sys}

theorem timer_of_reachable (h : Reachable (system idleTimeout failedRx) s) : s.Timer :=
  invariant_of_steps ⟨fun _ _ ht => (by cases ht), fun _ => rfl⟩
    (fun hr _ hp hs => timer_step (viewers_of_reachable hr.reachable) hp hs) h

/-! ## The period -/

/-- No viewer calls it off: a teardown that has found none, or a timer that its abort came too late
for. -/
def TimerPc.loose : TimerPc → Bool
  | tearing | late => true
  | _ => false

/-- The loop takes an `Attached` before the timer that it aborts is due. -/
def Sys.abortsInTime (s : Sys) : Action → Bool
  | .viewerEvent => s.viewerEvents.head? ≠ some .attached ||
      !(s.idleTimer.bind (s.timers[·]?)).any (TimerPc.due s.now)
  | _ => true

/-- Until the instant `u`, a timer that fires finds a viewer, and none is loose. -/
structure GraceInv (u now : Nat) (count : Int) (timers : List TimerPc) : Prop where
  early : ∀ t d : Nat, timers[t]? = some (.sleeping d) → d < u → 0 < count
  tame : now < u → ∀ pc ∈ timers, pc.loose = false

namespace GraceInv

variable {u now t : Nat} {n : Int} {tm : List TimerPc} {pc : TimerPc}

theorem wake (h : GraceInv u now n tm) (hpc : ∀ d, pc ≠ .sleeping d)
    (htame : now < u → pc.loose = false) : GraceInv u now n (tm.set t pc) := by
  refine ⟨?_, fun hnow => Pool.forall_set (h.tame hnow) (htame hnow)⟩
  intro k d hk
  rcases Pool.getElem?_set_cases hk with ⟨-, hsleep⟩ | ⟨-, hold⟩
  · exact absurd hsleep.symm (hpc d)
  · exact h.early k d hold

/-- A timer that fires before the end finds a viewer. -/
theorem count_pos (h : GraceInv u now n tm) (ht : tm[t]? = some pc) (hd : pc.due now = true)
    (hnow : now < u) : 0 < n := by
  have htame := h.tame hnow pc (List.mem_of_getElem? ht)
  cases pc with
  | sleeping d => exact h.early t d ht (Nat.lt_of_le_of_lt (of_decide_eq_true hd) hnow)
  | late => cases htame
  | _ => cases hd

end GraceInv

def Sys.Grace (s : Sys) (u : Nat) : Prop := GraceInv u s.now s.viewerCount s.timers

/-- An abort that comes in time lets no timer loose. -/
theorem tame_of_abort {s : Sys} (h : ∀ pc ∈ s.timers, pc.loose = false)
    (hok : (s.idleTimer.bind (s.timers[·]?)).any (TimerPc.due s.now) = false) :
    ∀ pc ∈ (s.idleTimer.map s.abortTimer).getD s.timers, pc.loose = false := by
  cases hid : s.idleTimer with
  | none => exact h
  | some t =>
    intro pc hpc
    obtain ⟨k, hk⟩ := List.mem_iff_getElem?.mp hpc
    have hk : (s.abortTimer t)[k]? = some pc := hk
    rw [Sys.abortTimer, List.getElem?_modify] at hk
    obtain ⟨old, hold, he⟩ := Option.map_eq_some_iff.mp hk
    have htame := h old (List.mem_of_getElem? hold)
    by_cases htk : t = k
    · subst htk
      rw [if_pos rfl] at he
      cases old with
      | sleeping deadline =>
        have hearly : ¬ deadline ≤ s.now := by simpa [hid, hold, TimerPc.due] using hok
        simp only [if_neg hearly] at he
        exact he ▸ rfl
      | _ => exact he ▸ htame
    · rw [if_neg htk] at he
      exact he ▸ htame

theorem grace_step {a : Action} {u : Nat} (hv : s.Viewers) (htimer : s.Timer)
    (hu : u ≤ s.now + s.idleTimeout) (hok : s.abortsInTime a = true) (h : s.Grace u)
    (hs : Step s a s') : s'.Grace u := by
  cases hs with
  | subscribe =>
    refine ⟨fun t d ht hd => ?_, h.tame⟩
    have hcount := h.early t d ht hd
    show 0 < s.viewerCount + 1
    omega
  | onAttached hq =>
    refine ⟨fun t d ht => absurd ht (not_sleeping_of_abort htimer), fun hnow => ?_⟩
    refine tame_of_abort (h.tame hnow) ?_
    simpa [Sys.abortsInTime, hq] using hok
  | onDetached hq hpos => exact ⟨fun _ _ _ _ => Int.not_le.mp hpos, h.tame⟩
  | @onLastDetached rest hq hcount =>
    have hnone := idleTimer_of_detached hv htimer hq
    refine ⟨?_, fun hnow => Pool.forall_append (h.tame hnow) rfl⟩
    intro t d ht hd
    rcases Pool.getElem?_append_cases ht with hold | ⟨-, hnew⟩
    · have hhandle := htimer.handle t d hold
      rw [hnone] at hhandle
      cases hhandle
    · cases hnew
      omega
  | timerGivesUp => exact h.wake (fun _ => TimerPc.noConfusion) fun _ => rfl
  | timerTears ht hd hl hcount =>
    refine h.wake (fun _ => TimerPc.noConfusion) fun hnow => ?_
    exact absurd (h.count_pos ht hd hnow) hcount
  | teardown | teardownIdle | timerStops => exact h.wake (fun _ => TimerPc.noConfusion) fun _ => rfl
  | tick => exact ⟨h.early, fun hnow => h.tame (by have : s.now + _ < u := hnow; omega)⟩
  | _ => exact h

theorem clock_step {a : Action} (hs : Step s a s') :
    s.now ≤ s'.now ∧ s'.idleTimeout = s.idleTimeout := by
  cases hs with
  | tick => exact ⟨Nat.le_add_right _ _, rfl⟩
  | _ => exact ⟨Nat.le_refl _, rfl⟩

/-- The slots of a session that stays. -/
theorem slots_kept {a : Action} (hslots : s.Slots) {c : Nat} (hc : s.rtpTx = some c)
    (htame : ∀ pc ∈ s.timers, pc.loose = false) (hs : Step s a s') :
    s'.rtpTx = some c ∧ s'.h264 = s.h264 := by
  cases hs with
  | install hi =>
    have hst := hslots.connecting_of_owner hi rfl
    rw [(hslots.empty (by rw [hst]; decide)).1] at hc
    cases hc
  | teardown ht => cases htame .tearing (List.mem_of_getElem? ht)
  | _ => exact ⟨hc, rfl⟩

/-- The state `t` is later than `s`, and the period of `s` with its channel `c` is observed. -/
structure Sys.KeptSince (s : Sys) (c : Nat) (t : Sys) : Prop where
  clock : s.now + s.idleTimeout ≤ t.now + t.idleTimeout
  grace : t.Grace (s.now + s.idleTimeout)
  slots : t.now < s.now + s.idleTimeout → t.rtpTx = some c ∧ t.h264 = s.h264

theorem keptSince_step {t t' : Sys} {a : Action} {c : Nat}
    (hr : Reachable (system idleTimeout failedRx) t) (hok : t.abortsInTime a = true)
    (h : s.KeptSince c t) (hs : Step t a t') : s.KeptSince c t' := by
  obtain ⟨hle, htimeout⟩ := clock_step hs
  have hclock := h.clock
  refine ⟨by omega, ?_, fun hnow => ?_⟩
  · exact grace_step (viewers_of_reachable hr) (timer_of_reachable hr) hclock hok h.grace hs
  · have hbefore : t.now < s.now + s.idleTimeout := by omega
    obtain ⟨hrtp, hh264⟩ := h.slots hbefore
    obtain ⟨hrtp', hh264'⟩ := slots_kept (slots_of_reachable hr) hrtp (h.grace.tame hbefore) hs
    exact ⟨hrtp', hh264'.trans hh264⟩

/-- A session that has a viewer keeps its channel and its parameters until `idle_timeout` has passed,
whatever viewers, watchdogs and timers do, as long as each `Attached` is taken before the timer that it
aborts is due. Only a teardown that is already on its way then is not called off. -/
theorem rtpTx_kept (h : Reachable (system idleTimeout failedRx) s) {c : Nat}
    (hc : s.rtpTx = some c) (hcount : 0 < s.viewerCount) (htame : ∀ pc ∈ s.timers, pc.loose = false)
    {as : List Action}
    (hp : PathWhere (system idleTimeout failedRx) (fun t a => t.abortsInTime a = true) s as s')
    (hnow : s'.now < s.now + s.idleTimeout) :
    s'.state = .streaming ∧ s'.rtpTx = some c ∧ s'.h264 = s.h264 := by
  have hstart : s.KeptSince c s :=
    ⟨Nat.le_refl _, ⟨fun _ _ _ _ => hcount, fun _ => htame⟩, fun _ => ⟨hc, rfl⟩⟩
  have hkept : s.KeptSince c s' := by
    refine hp.inductFrom h hstart fun t a t' hr hok hs hkept => ?_
    exact keptSince_step hr hok hkept (step_of_eq hs)
  obtain ⟨hrtp, hh264⟩ := hkept.slots hnow
  have hreach := hp.path.reachableWhere h
  exact ⟨(slots_of_reachable hreach).streaming_of_rtpTx hrtp, hrtp, hh264⟩

/-- The run in which viewer 1 comes back to a session that viewer 0 left `d` ns ago. -/
def comeBack (d : Nat) : List Action :=
  bringUp 0 0 ++ [.dropSubscription 0, .viewerEvent, .tick d, .subscribe, .call 1, .call 1, .call 1]

/-- The state at the end of it. -/
def Sys.cameBack (d : Nat) (s : Sys) : Bool :=
  decide (s.rtpTx = some 0 ∧ 0 < s.viewerCount ∧ s.now = d ∧ s.idleTimeout = 60) &&
    s.timers.all fun pc => !pc.loose

/-- Viewer 1 leaves at once. The timer that was started for viewer 0 is past its deadline and the
session is still there. -/
theorem rtpTx_kept_return : ∃ s as s', Reachable (system 60 none) s ∧ s.now = 50 ∧
    Path (system 60 none) s as s' ∧ s'.now = 100 ∧ s'.viewerCount = 0 ∧
    s'.state = .streaming ∧ s'.rtpTx = some 0 ∧ s'.h264 = s.h264 := by
  obtain ⟨s, hr, hp⟩ := exists_reachable_of_run (system 60 none) (comeBack 50)
    (fun s : Sys => s.cameBack 50 &&
      (runWhere (system 60 none) Sys.abortsInTime s
        [.viewerEvent, .dropSubscription 1, .viewerEvent, .tick 50]).any
        fun s' : Sys => decide (s'.now = 100 ∧ s'.viewerCount = 0)) (by decide +kernel)
  obtain ⟨hs, hrun⟩ := Bool.and_eq_true_iff.mp hp
  obtain ⟨hs, htame⟩ := Bool.and_eq_true_iff.mp hs
  obtain ⟨hc, hcount, hnow, htimeout⟩ := of_decide_eq_true hs
  obtain ⟨s', hrun, hs'⟩ := (Option.any_eq_true _ _).mp hrun
  obtain ⟨hnow', hcount'⟩ := of_decide_eq_true hs'
  have hpath := pathWhere_of_runWhere (fun _ _ hok => hok) (.nil s) hrun
  have hkept := rtpTx_kept hr hc hcount (by simpa using htame) hpath (by omega)
  exact ⟨s, _, s', hr, hnow, hpath.path, hnow', hcount', hkept⟩

/-- With the first timer due when it is aborted, it may run on and find that viewer 1 has left: the
session goes in the instant in which viewer 1 does. -/
theorem rtpTx_lost_late : ∃ s as s', Reachable (system 60 none) s ∧ s.cameBack 60 = true ∧
    Path (system 60 none) s as s' ∧ s'.now = 60 ∧ s'.rtpTx = none := by
  obtain ⟨s, hr, hp⟩ := exists_reachable_of_run (system 60 none) (comeBack 60)
    (fun s : Sys => s.cameBack 60 &&
      (run (system 60 none) s [.viewerEvent, .dropSubscription 1, .viewerEvent, .timer 0, .timer 0]).any
        fun s' : Sys => decide (s'.now = 60 ∧ s'.rtpTx = none)) (by decide +kernel)
  obtain ⟨hs, hrun⟩ := Bool.and_eq_true_iff.mp hp
  obtain ⟨s', hpath, hs'⟩ := exists_path_of_run hrun
  obtain ⟨hnow, hlost⟩ := of_decide_eq_true hs'
  exact ⟨s, _, s', hr, hs, hpath, hnow, hlost⟩

end Buddy3dProxy.Supervisor
