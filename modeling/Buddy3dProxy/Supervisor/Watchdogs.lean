import Buddy3dProxy.Supervisor.Handles

/-!
# Who reconnects an ended session

A watchdog returns when its session has ended and it sees no viewer, while the state stays
`Streaming` for the rest of the idle window. `WatchdogsInv` says what the watchdog of the stored
channel is doing: it waits for the installed session, or that session has ended on its own. A session
that ended with viewers is then left alone only if a viewer attached after the watchdog had returned,
or the session ended before its watchdog was spawned.
-/

namespace Buddy3dProxy.Supervisor

open Transition

/-! ## Sessions that ended on their own -/

def Sys.fired (s : Sys) (j : Nat) : Bool := s.sessions[j]?.any (·.ended == .fired)

def Action.ends (j : Nat) : Action → Bool
  | sessionEnds k => k == j
  | _ => false

/-- The flag of a session is set when it ends on its own, and never changes otherwise. -/
theorem fired_of_step {s s' : Sys} {a : Action} (hs : Step s a s') (j : Nat) :
    s'.fired j = (s.fired j || a.ends j) := by
  have keep {ss : List Session} (h : ss[j]?.any (·.ended == .fired) = s.fired j) :
      ss[j]?.any (·.ended == .fired) = (s.fired j || false) := by rw [h, Bool.or_false]
  cases hs with
  | startConnect => exact keep (Pool.any_append rfl)
  | watchdogConnect => exact keep (Pool.any_append rfl)
  | callConnectOk | callConnectErr | cancelConnect | cancelConnected | watchdogOk | watchdogErr
  | discard | register => exact keep (Pool.any_modify fun _ _ => rfl)
  | install | reinstall | teardown => exact keep (s.any_dropStored fun _ => rfl)
  | @sessionEnds k x hx hp he =>
    show (s.sessions.modify k _)[j]?.any _ = (s.sessions[j]?.any _ || k == j)
    by_cases hkj : k = j
    · subst hkj
      rw [List.getElem?_modify_eq, hx, beq_self_eq_true, Bool.or_true]
      rfl
    · rw [List.getElem?_modify_ne _ _ hkj, beq_eq_false_iff_ne.mpr hkj, Bool.or_false]
  | @sessionKilled k x hx hp he =>
    refine keep (Pool.any_modify ?_)
    intro y hy
    rw [← Option.some.inj (hx.symm.trans hy), he]
    rfl
  | _ => exact keep rfl

/-! ## The watchdog of the stored channel -/

def WatchdogPc.awaited? : WatchdogPc → Option Nat
  | awaitEnded j => some j
  | _ => none

/-- The watchdog awaits the end of the installed session, or that session has ended on its own. -/
def WatchdogPc.Follows (fired : Nat → Bool) (stop : Option Nat) (pc : WatchdogPc) : Prop :=
  match pc.awaited? with
  | some j => stop = some j
  | none => stop.any fired = true

theorem WatchdogPc.follows_of_none {fired : Nat → Bool} {stop : Option Nat} {pc : WatchdogPc}
    (hpc : pc.awaited? = none) (h : stop.any fired = true) : pc.Follows fired stop := by
  unfold Follows
  rw [hpc]
  exact h

theorem WatchdogPc.Follows.ended {fired : Nat → Bool} {stop : Option Nat} {pc : WatchdogPc}
    (h : pc.Follows fired stop) (hpc : pc.awaited? = none) : stop.any fired = true := by
  unfold Follows at h
  rw [hpc] at h
  exact h

structure WatchdogsInv (fired : Nat → Bool) (calls : List SubscribePc) (watchdogs : List Watchdog)
    (rtpTx stop : Option Nat) : Prop where
  follows : ∀ d ∈ watchdogs, rtpTx = some d.tx → d.pc.Follows fired stop
  spawning : ∀ pc ∈ calls, ∀ tx j, pc = .spawnWatchdog tx j → stop = some j
  spawned : ∀ c, rtpTx = some c → (∃ d ∈ watchdogs, d.tx = c) ∨ ∃ j, .spawnWatchdog c j ∈ calls

namespace WatchdogsInv

variable {fired fired' : Nat → Bool} {calls : List SubscribePc} {watchdogs : List Watchdog}
  {rtpTx stop : Option Nat} {i j w : Nat} {pc pc' : SubscribePc} {d d' : Watchdog}

theorem mono (h : WatchdogsInv fired calls watchdogs rtpTx stop)
    (hf : ∀ j, fired j = true → fired' j = true) :
    WatchdogsInv fired' calls watchdogs rtpTx stop := by
  refine ⟨?_, h.spawning, h.spawned⟩
  intro d hd hc
  have hfollows := h.follows d hd hc
  unfold WatchdogPc.Follows at hfollows ⊢
  cases hpc : d.pc.awaited? with
  | some j =>
    rw [hpc] at hfollows
    exact hfollows
  | none =>
    rw [hpc] at hfollows
    obtain ⟨j, hj, hfired⟩ := (Option.any_eq_true _ _).mp hfollows
    exact (Option.any_eq_true _ _).mpr ⟨j, hj, hf j hfired⟩

theorem move (h : WatchdogsInv fired calls watchdogs rtpTx stop) (hi : calls[i]? = some pc)
    (hpc : ∀ tx j, pc ≠ .spawnWatchdog tx j) (hpc' : ∀ tx j, pc' ≠ .spawnWatchdog tx j) :
    WatchdogsInv fired (calls.set i pc') watchdogs rtpTx stop := by
  refine ⟨h.follows, Pool.forall_set h.spawning fun tx j he => absurd he (hpc' tx j),
    ?_⟩
  intro c hc
  rcases h.spawned c hc with hd | ⟨j, hj⟩
  · exact Or.inl hd
  · exact Or.inr ⟨j, Pool.mem_set_of_ne hi (hpc c j) hj⟩

theorem moveWatchdog (h : WatchdogsInv fired calls watchdogs rtpTx stop)
    (hw : watchdogs[w]? = some d) (htx : d'.tx = d.tx)
    (hd' : rtpTx = some d.tx → d'.pc.Follows fired stop) :
    WatchdogsInv fired calls (watchdogs.set w d') rtpTx stop := by
  refine ⟨Pool.forall_set h.follows fun hc => hd' (htx ▸ hc), h.spawning, ?_⟩
  intro c hc
  rcases h.spawned c hc with ⟨x, hx, hxc⟩ | hspawn
  · obtain ⟨k, hk⟩ := List.mem_iff_getElem?.mp hx
    by_cases hkw : k = w
    · subst hkw
      have hxd : x = d := Option.some.inj (hk.symm.trans hw)
      have hlt := (List.getElem?_eq_some_iff.mp hw).1
      exact Or.inl ⟨d', List.mem_set hlt _, by rw [htx, ← hxd, hxc]⟩
    · refine Or.inl ⟨x, List.mem_of_getElem? (i := k) ?_, hxc⟩
      rw [List.getElem?_set_ne (Ne.symm hkw)]
      exact hk
  · exact Or.inr hspawn

/-- A watchdog that does not await moves on without awaiting. -/
theorem keep (h : WatchdogsInv fired calls watchdogs rtpTx stop) (hw : watchdogs[w]? = some d)
    (htx : d'.tx = d.tx) (hpc : d.pc.awaited? = none) (hpc' : d'.pc.awaited? = none) :
    WatchdogsInv fired calls (watchdogs.set w d') rtpTx stop :=
  h.moveWatchdog hw htx fun hc =>
    WatchdogPc.follows_of_none hpc' ((h.follows d (List.mem_of_getElem? hw) hc).ended hpc)

/-- A call installs its session on a channel that has no watchdog yet. -/
theorem of_install {tx : Nat}
    (hi : calls[i]? = some pc) (hno : ∀ d ∈ watchdogs, d.tx ≠ tx)
    (hcalls : ∀ pc ∈ calls, ∀ tx j, pc ≠ .spawnWatchdog tx j) :
    WatchdogsInv fired (calls.set i (.spawnWatchdog tx j)) watchdogs (some tx) (some j) := by
  refine ⟨fun d hd hc => absurd (Option.some.inj hc).symm (hno d hd),
    Pool.forall_set (fun x hx c k he => absurd he (hcalls x hx c k)) ?_, ?_⟩
  · rintro c k ⟨⟩
    rfl
  · rintro c ⟨⟩
    have hlt := (List.getElem?_eq_some_iff.mp hi).1
    exact Or.inr ⟨j, List.mem_set hlt _⟩

theorem spawn (h : WatchdogsInv fired calls watchdogs rtpTx stop) {tx : Nat}
    (hi : calls[i]? = some (.spawnWatchdog tx j)) (hpc' : ∀ tx j, pc' ≠ .spawnWatchdog tx j)
    (hd : d.tx = tx) (hpc : d.pc = .awaitEnded j) :
    WatchdogsInv fired (calls.set i pc') (watchdogs ++ [d]) rtpTx stop := by
  refine ⟨Pool.forall_append h.follows ?_,
    Pool.forall_set h.spawning fun tx j he => absurd he (hpc' tx j), ?_⟩
  · intro _
    rw [hpc]
    exact h.spawning _ (List.mem_of_getElem? hi) tx j rfl
  · intro c hc
    by_cases hcd : d.tx = c
    · exact Or.inl ⟨d, List.mem_append_right _ (List.mem_singleton_self _), hcd⟩
    · rcases h.spawned c hc with ⟨x, hx, hxc⟩ | ⟨k, hk⟩
      · exact Or.inl ⟨x, List.mem_append_left _ hx, hxc⟩
      · refine Or.inr ⟨k, Pool.mem_set_of_ne hi (fun he => ?_) hk⟩
        cases he
        exact hcd hd

/-- The watchdog of the stored channel installs a new session and awaits its end. -/
theorem of_reinstall
    (hw : watchdogs[w]? = some d) (htx : d'.tx = d.tx) (hpc : d'.pc = .awaitEnded j)
    (hcalls : ∀ pc ∈ calls, ∀ tx k, pc ≠ .spawnWatchdog tx k)
    (huniq : ∀ k x, watchdogs[k]? = some x → x.tx = d.tx → k = w)
    (hc : rtpTx = some d.tx) : WatchdogsInv fired calls (watchdogs.set w d') rtpTx (some j) := by
  have hlt := (List.getElem?_eq_some_iff.mp hw).1
  refine ⟨?_, fun pc hpc tx k he => absurd he (hcalls pc hpc tx k), ?_⟩
  · intro x hx hxc
    rcases Pool.mem_set_cases hx with rfl | ⟨k, hk, hkx⟩
    · rw [hpc]
      rfl
    · have hsame : x.tx = d.tx := Option.some.inj (hxc.symm.trans hc)
      exact absurd (huniq k x hkx hsame) hk
  · intro c hc'
    have hcd : d.tx = c := Option.some.inj (hc.symm.trans hc')
    exact Or.inl ⟨d', List.mem_set hlt _, htx.trans hcd⟩

end WatchdogsInv

def Sys.WatchdogsOk (s : Sys) : Prop :=
  WatchdogsInv s.fired s.calls s.watchdogs s.rtpTx s.stop

theorem watchdogs_new (idleTimeout : Nat) (failedRx : Option Bool) (now : Nat) :
    (Sys.new idleTimeout failedRx now).WatchdogsOk where
  follows d h := by cases h
  spawning pc h := by cases h
  spawned c h := by cases h

theorem watchdogs_step {s s' : Sys} {a : Action} (hv : s.Viewers) (hslots : s.Slots)
    (hchannels : s.Channels) (hfollowed : s.Followed) (hsessions : s.SessionsOk)
    (h : s.WatchdogsOk) (hs : Step s a s') : s'.WatchdogsOk := by
  suffices h' : WatchdogsInv s.fired s'.calls s'.watchdogs s'.rtpTx s'.stop by
    apply h'.mono
    intro j hj
    rw [fired_of_step hs, hj, Bool.true_or]
  cases hs with
  | subscribe =>
    refine ⟨h.follows, Pool.forall_append h.spawning fun tx j he => (by cases he), ?_⟩
    intro c hc
    exact (h.spawned c hc).imp id fun ⟨j, hj⟩ => ⟨j, List.mem_append_left _ hj⟩
  | sendAttached hi | rejectBudget hi | enterConnecting hi | foundConnecting hi
  | foundStreaming hi | startConnect hi | callConnectOk hi | callConnectErr hi | resetToIdle hi
  | noReset hi | watchSubscribe hi | watchChanged hi | watchDone hi | rollback hi | returning hi
  | cancelLock hi | cancelConnect hi | cancelFailed hi | cancelConnected hi | cancelWaiting hi
  | cancelFinal hi | dropSubscription hi | play hi | forward hi =>
    exact h.move hi (fun _ _ => SubscribePc.noConfusion) fun _ _ => SubscribePc.noConfusion
  | watchRead hi =>
    apply h.move hi (fun _ _ => SubscribePc.noConfusion)
    intro _ _
    unfold Sys.watchOutcome
    split <;> exact SubscribePc.noConfusion
  | lockFinal hi =>
    apply h.move hi (fun _ _ => SubscribePc.noConfusion)
    intro _ _
    unfold Sys.finalOutcome
    split <;> exact SubscribePc.noConfusion
  | @install i tx j x hi =>
    have hst := hslots.connecting_of_owner hi rfl
    have hnone : s.rtpTx = none := (hslots.empty (by rw [hst]; decide)).1
    have hf : FollowedInv none s.calls := hnone ▸ hfollowed
    refine WatchdogsInv.of_install hi ?_ ?_
    · intro d hd hdt
      obtain ⟨w, hw⟩ := List.mem_iff_getElem?.mp hd
      exact hchannels.ne_of_call hi hw (hdt ▸ rfl)
    · intro pc hpc tx k he
      have := hf.none_of_empty hpc
      rw [he] at this
      cases this
  | spawnWatchdog hi => exact h.spawn hi (fun _ _ => SubscribePc.noConfusion) rfl rfl
  | @sawEnded w j d x hw hpc hx he =>
    refine h.moveWatchdog hw rfl fun hc => WatchdogPc.follows_of_none rfl ?_
    have hstop : s.stop = some j := by
      have hfollows := h.follows d (List.mem_of_getElem? hw) hc
      rw [hpc] at hfollows
      exact hfollows
    simp [hstop, Sys.fired, hx, he]
  | @sawClosed w j d x hw hpc hx he =>
    -- an installed session is not stopped, so it is not this one that was closed
    refine h.moveWatchdog hw rfl ?_
    intro hc
    have hstop : s.stop = some j := by
      have hfollows := h.follows d (List.mem_of_getElem? hw) hc
      rw [hpc] at hfollows
      exact hfollows
    obtain ⟨c, -, y, hy, -, hrunning, -⟩ := hsessions.stored j hstop
    have hxy : x = y := Option.some.inj (hx.symm.trans hy)
    have hstopped := hsessions.killed x (List.mem_of_getElem? hx) he
    rw [hxy, hrunning] at hstopped
    cases hstopped
  | exitNoViewers hw hpc =>
    exact h.keep hw rfl (by rcases hpc with hpc | hpc <;> rw [hpc] <;> rfl) rfl
  | startRetrying hw hpc | watchdogSleep hw hpc | wakeSame hw hpc | wakeOther hw hpc
  | keepRetrying hw hpc | sawFailed hw hpc | watchdogConnect hw hpc | watchdogOk hw hpc
  | watchdogErr hw hpc | discard hw hpc => exact h.keep hw rfl (by rw [hpc]; rfl) rfl
  | @reinstall w j d hw hpc hl hc =>
    refine WatchdogsInv.of_reinstall hw rfl rfl ?_
      (fun k x hx hsame => hchannels.watchdog_unique hw hx hsame) hc
    intro pc hpc tx k he
    obtain ⟨i, hi⟩ := List.mem_iff_getElem?.mp hpc
    have hstored := hfollowed pc hpc tx (by rw [he]; rfl)
    have htx : tx = d.tx := Option.some.inj (hstored.symm.trans hc)
    exact hchannels.ne_of_call hi hw (by rw [he, htx]; rfl)
  | teardown ht =>
    refine ⟨fun d hd hc => (by cases hc), ?_, fun c hc => (by cases hc)⟩
    intro pc hpc tx k he
    have hnone := storedTx_of_tearing hv (List.mem_of_getElem? ht) hpc
    rw [he] at hnone
    cases hnone
  | _ => exact h

theorem watchdogs_of_reachable {idleTimeout : Nat} {failedRx : Option Bool} {s : Sys}
    (h : Reachable (system idleTimeout failedRx) s) : s.WatchdogsOk :=
  invariant_of_steps (watchdogs_new _ _ _)
    (fun hr _ hp hs => watchdogs_step (viewers_of_reachable hr.reachable)
      (slots_of_reachable hr.reachable) (channels_of_reachable hr.reachable)
      (followed_of_reachable hr.reachable) (sessions_of_reachable hr.reachable) hp hs) h

/-! ## An ended session with viewers -/

/-- The call returned a subscription that receives from the channel `c`. -/
def SubscribePc.receives (c : Nat) : SubscribePc → Bool
  | live sub => sub.rtp == c
  | _ => false

/-- The call is about to spawn the watchdog of the channel `c`, for a session with the property
`p`. -/
def SubscribePc.spawns (c : Nat) (p : Nat → Bool) : SubscribePc → Bool
  | spawnWatchdog tx j => tx == c && p j
  | _ => false

/-- The task is a running watchdog of the channel `c`. -/
def Watchdog.guards (c : Nat) (d : Watchdog) : Bool := d.tx == c && d.pc != .exited

namespace Sys

variable (s : Sys)

/-- The installed session has ended on its own. -/
def hasEnded : Bool := s.stop.any s.fired

def watched (c : Nat) : Bool := s.calls.any (·.receives c)

def guarded (c : Nat) : Bool := s.watchdogs.any (·.guards c)

/-- The condition on a step. A call takes its receiver only while the watchdog of the stored channel
is running, or is about to be spawned for a session that has not ended; and no session ends on its
own while it is already watched and its watchdog is yet to be spawned. -/
def attachesGuarded : Action → Bool
  | .call i =>
    s.calls[i]? != some .lockFinal ||
      s.rtpTx.all fun c => s.guarded c || s.calls.any (·.spawns c fun j => !s.fired j)
  | .sessionEnds j => s.rtpTx.all fun c => !(s.watched c && s.calls.any (·.spawns c (· == j)))
  | _ => true

variable {s} {i j c : Nat}

theorem guarded_of_attaches (h : s.attachesGuarded (.call i) = true)
    (hi : s.calls[i]? = some .lockFinal) (hc : s.rtpTx = some c) :
    s.guarded c = true ∨ ∃ j, .spawnWatchdog c j ∈ s.calls ∧ s.fired j = false := by
  have hor : (s.guarded c || s.calls.any (·.spawns c fun j => !s.fired j)) = true := by
    simp only [attachesGuarded, hi, hc, bne_self_eq_false, Bool.false_or, Option.all_some] at h
    exact h
  rcases Bool.or_eq_true_iff.mp hor with hg | hspawn
  · exact Or.inl hg
  · obtain ⟨pc, hpc, hspawns⟩ := List.any_eq_true.mp hspawn
    cases pc with
    | spawnWatchdog tx j =>
      obtain ⟨htx, hrun⟩ := Bool.and_eq_true_iff.mp hspawns
      rw [beq_iff_eq.mp htx] at hpc
      exact Or.inr ⟨j, hpc, by simpa using hrun⟩
    | _ => cases hspawns

theorem not_spawns_of_ends (h : s.attachesGuarded (.sessionEnds j) = true)
    (hc : s.rtpTx = some c) (hw : s.watched c = true) : .spawnWatchdog c j ∉ s.calls := by
  intro hmem
  simp only [attachesGuarded, hc, Option.all_some, hw, Bool.true_and, Bool.not_eq_true'] at h
  have hspawn : s.calls.any (·.spawns c (· == j)) = true :=
    List.any_eq_true.mpr ⟨_, hmem, by simp [SubscribePc.spawns]⟩
  rw [hspawn] at h
  cases h

end Sys

/-- No ended session with viewers is left with nobody to reconnect it, as long as the auth-failed
latch is not set. -/
def AttendedInv (failedRx : Option Bool) (calls : List SubscribePc) (watchdogs : List Watchdog)
    (rtpTx : Option Nat) (ended : Bool) : Prop :=
  failedRx ≠ some true → ∀ c, rtpTx = some c → calls.any (·.receives c) = true →
    ended = false ∨ watchdogs.any (·.guards c) = true

namespace AttendedInv

variable {failedRx : Option Bool} {calls : List SubscribePc} {watchdogs : List Watchdog}
  {rtpTx : Option Nat} {ended : Bool} {i w : Nat} {pc pc' : SubscribePc} {d d' : Watchdog}

theorem of_unwatched (h : ∀ c, rtpTx = some c → calls.any (·.receives c) = false) :
    AttendedInv failedRx calls watchdogs rtpTx ended := by
  intro _ c hc hw
  rw [h c hc] at hw
  cases hw

theorem of_running (h : ended = false) : AttendedInv failedRx calls watchdogs rtpTx ended :=
  fun _ _ _ _ => Or.inl h

theorem move (h : AttendedInv failedRx calls watchdogs rtpTx ended) (hi : calls[i]? = some pc)
    (hpc' : ∀ c, pc'.receives c = true → pc.receives c = true) :
    AttendedInv failedRx (calls.set i pc') watchdogs rtpTx ended :=
  fun hf c hc hw => h hf c hc (Pool.any_of_any_set hi (hpc' c) hw)

/-- A watchdog moves, and returns only if its channel is not the stored one. -/
theorem moveWatchdog (h : AttendedInv failedRx calls watchdogs rtpTx ended)
    (hw : watchdogs[w]? = some d) (htx : d'.tx = d.tx)
    (hd' : d'.pc ≠ .exited ∨ rtpTx ≠ some d.tx) :
    AttendedInv failedRx calls (watchdogs.set w d') rtpTx ended := by
  intro hf c hc hrecv
  refine (h hf c hc hrecv).imp id (Pool.any_set hw ?_)
  intro hg
  obtain ⟨hdc, -⟩ := Bool.and_eq_true_iff.mp hg
  have hdc : d.tx = c := beq_iff_eq.mp hdc
  rcases hd' with hrun | hother
  · exact Bool.and_eq_true_iff.mpr ⟨by rw [htx, hdc, beq_self_eq_true], bne_iff_ne.mpr hrun⟩
  · exact absurd (hdc ▸ hc) hother

end AttendedInv

def Sys.Attended (s : Sys) : Prop :=
  AttendedInv s.failedRx s.calls s.watchdogs s.rtpTx s.hasEnded

theorem unwatched_of_count_le_zero {s : Sys} (hv : s.Viewers) (hcount : s.viewerCount ≤ 0)
    (c : Nat) : s.watched c = false := by
  have hzero := (hv.of_count_le_zero hcount).1
  apply List.any_eq_false.mpr
  intro pc hpc hr
  have hnot := Pool.of_countP_eq_zero hzero hpc
  cases pc with
  | live sub => cases hnot
  | _ => cases hr

/-- A step that meets the condition leaves no ended session with viewers unattended. -/
theorem attended_step {s s' : Sys} {a : Action} (hv : s.Viewers) (hslots : s.Slots)
    (hfollowed : s.Followed) (hwatchdogs : s.WatchdogsOk) (hok : s.attachesGuarded a = true)
    (h : s.Attended) (hs : Step s a s') : s'.Attended := by
  have hfired : s'.fired = fun j => s.fired j || a.ends j := funext (fired_of_step hs)
  suffices h' : AttendedInv s'.failedRx s'.calls s'.watchdogs s'.rtpTx
      (s'.stop.any fun j => s.fired j || a.ends j) by
    unfold Sys.Attended Sys.hasEnded
    rw [hfired]
    exact h'
  have keep {failedRx : Option Bool} {calls : List SubscribePc} {watchdogs : List Watchdog}
      {rtpTx stop : Option Nat}
      (h : AttendedInv failedRx calls watchdogs rtpTx (stop.any s.fired)) :
      AttendedInv failedRx calls watchdogs rtpTx (stop.any fun j => s.fired j || false) := by
    simpa only [Bool.or_false] using h
  cases hs with
  | subscribe =>
    refine keep fun hf c hc hw => h hf c hc ?_
    have hw : (s.calls ++ [SubscribePc.counted]).any (·.receives c) = true := hw
    rw [List.any_append] at hw
    simpa [SubscribePc.receives] using hw
  | sendAttached hi | rejectBudget hi | enterConnecting hi | foundConnecting hi
  | foundStreaming hi | startConnect hi | callConnectOk hi | callConnectErr hi | resetToIdle hi
  | noReset hi | watchSubscribe hi | watchChanged hi | watchDone hi | rollback hi | returning hi
  | cancelLock hi | cancelConnect hi | cancelFailed hi | cancelConnected hi | cancelWaiting hi
  | cancelFinal hi | dropSubscription hi => exact keep (h.move hi fun _ hr => by cases hr)
  | watchRead hi =>
    refine keep (h.move hi ?_)
    intro _ hr
    unfold Sys.watchOutcome at hr
    split at hr <;> cases hr
  | play hi | forward hi => exact keep (h.move hi fun _ hr => hr)
  | lockFinal hi =>
    apply keep
    intro hf c hc hw
    obtain ⟨x, hx, hr⟩ := List.any_eq_true.mp hw
    rcases List.mem_or_eq_of_mem_set hx with hx | rfl
    · exact h hf c hc (List.any_eq_true.mpr ⟨x, hx, hr⟩)
    · -- the call takes its receiver, and the condition speaks of this moment
      rcases Sys.guarded_of_attaches hok hi hc with hguard | ⟨j, hspawn, hrun⟩
      · exact Or.inr hguard
      · left
        show s.stop.any s.fired = false
        rw [hwatchdogs.spawning _ hspawn c j rfl]
        exact hrun
  | install hi =>
    -- nobody receives from a channel that is only now stored
    have hst := hslots.connecting_of_owner hi rfl
    have hnone : s.rtpTx = none := (hslots.empty (by rw [hst]; decide)).1
    have hf : FollowedInv none s.calls := hnone ▸ hfollowed
    refine AttendedInv.of_unwatched fun c _ => List.any_eq_false.mpr ?_
    intro x hx hr
    rcases List.mem_or_eq_of_mem_set hx with hx | rfl
    · have hno := hf.none_of_empty hx
      cases x with
      | live sub => cases hno
      | _ => cases hr
    · cases hr
  | spawnWatchdog hi =>
    have h' : AttendedInv s.failedRx (s.calls.set _ .lockFinal) s.watchdogs s.rtpTx s.hasEnded :=
      h.move hi fun _ hr => by cases hr
    refine keep fun hf c hc hw => (h' hf c hc hw).imp id ?_
    intro hg
    show (s.watchdogs ++ [_]).any (·.guards c) = true
    rw [List.any_append, hg, Bool.true_or]
  | exitNoViewers hw hpc hcount =>
    exact AttendedInv.of_unwatched fun c _ => unwatched_of_count_le_zero hv hcount c
  | sawEnded hw | startRetrying hw | watchdogSleep hw | wakeSame hw | keepRetrying hw
  | watchdogConnect hw | watchdogOk hw | watchdogErr hw =>
    exact keep (h.moveWatchdog hw rfl (Or.inl WatchdogPc.noConfusion))
  | wakeOther hw hpc ht hl hc | discard hw hpc hl hc =>
    exact keep (h.moveWatchdog hw rfl (Or.inr hc))
  | @sawClosed w j d x hw hpc hx he =>
    by_cases hc : s.rtpTx = some d.tx
    · have hstop : s.stop = some j := by
        have hfollows := hwatchdogs.follows d (List.mem_of_getElem? hw) hc
        rw [hpc] at hfollows
        exact hfollows
      refine keep (AttendedInv.of_running ?_)
      show s.stop.any s.fired = false
      simp [hstop, Sys.fired, hx, he]
    · exact keep (h.moveWatchdog hw rfl (Or.inr hc))
  | sawFailed hw hpc hf => exact keep fun hno => absurd hf hno
  | @reinstall w j d hw hpc hl hc =>
    intro _ c hc' _
    have hcd : d.tx = c := Option.some.inj (hc.symm.trans hc')
    have hlt := (List.getElem?_eq_some_iff.mp hw).1
    refine Or.inr (List.any_eq_true.mpr ⟨_, List.mem_set hlt _, ?_⟩)
    simp [Watchdog.guards, hcd]
  | teardown => exact AttendedInv.of_unwatched fun c hc => by cases hc
  | @sessionEnds j x hx =>
    intro hf c hc hw
    rcases hwatchdogs.spawned c hc with ⟨d, hd, hdc⟩ | ⟨k, hk⟩
    · by_cases hexit : d.pc = .exited
      · -- its watchdog has returned, so the installed session had ended before
        have hended := (hwatchdogs.follows d hd (hdc ▸ hc)).ended (by rw [hexit]; rfl)
        exact Or.inr ((h hf c hc hw).resolve_left (by rw [Sys.hasEnded, hended]; decide))
      · exact Or.inr (List.any_eq_true.mpr ⟨d, hd, by simp [Watchdog.guards, hdc, hexit]⟩)
    · have hstop : s.stop = some k := hwatchdogs.spawning _ hk c k rfl
      have hkj : k ≠ j := by
        rintro rfl
        exact Sys.not_spawns_of_ends hok hc hw hk
      have hsame : (s.stop.any fun m => s.fired m || Action.ends m (.sessionEnds j)) =
          s.hasEnded := by
        simp [Sys.hasEnded, hstop, Action.ends, Ne.symm hkj]
      show (s.stop.any fun m => s.fired m || Action.ends m (.sessionEnds j)) = false ∨ _
      rw [hsame]
      exact h hf c hc hw
  | authFailed =>
    refine keep fun hno => h fun hlatch => hno ?_
    show s.failedRx.map _ = some true
    rw [hlatch]
    rfl
  | _ => exact keep h

theorem attended_of_reachableWhere {idleTimeout : Nat} {failedRx : Option Bool} {s : Sys}
    (h : ReachableWhere (system idleTimeout failedRx) (fun s a => s.attachesGuarded a = true) s) :
    s.Attended :=
  invariant_of_steps (AttendedInv.of_unwatched fun _ hc => by cases hc)
    (fun hr hok hp hs => attended_step (viewers_of_reachable hr.reachable)
      (slots_of_reachable hr.reachable) (followed_of_reachable hr.reachable)
      (watchdogs_of_reachable hr.reachable) hok hp hs) h

/-- A call that takes its receiver with neither a running watchdog nor one about to be spawned for a
running session is left with an ended session. -/
theorem unattended_of_call {idleTimeout : Nat} {failedRx : Option Bool} {s s' : Sys} {i : Nat}
    (h : Reachable (system idleTimeout failedRx) s) (hf : s.failedRx ≠ some true)
    (hok : s.attachesGuarded (.call i) = false) (hs : s.step (.call i) = some s') :
    ¬ s'.Attended := by
  have hwatchdogs := watchdogs_of_reachable h
  have hi : s.calls[i]? = some .lockFinal := by
    by_contra hne
    simp [Sys.attachesGuarded, hne] at hok
  cases hc : s.rtpTx with
  | none => simp [Sys.attachesGuarded, hc] at hok
  | some c =>
    simp only [Sys.attachesGuarded, hi, hc, bne_self_eq_false, Bool.false_or, Option.all_some,
      Bool.or_eq_false_iff] at hok
    obtain ⟨hguard, hspawn⟩ := hok
    have hst := (slots_of_reachable h).streaming_of_rtpTx hc
    obtain ⟨params, hparams⟩ := Option.isSome_iff_exists.mp ((slots_of_reachable h).full hst).2.2
    have hended : s.hasEnded = true := by
      rcases hwatchdogs.spawned c hc with ⟨d, hd, hdc⟩ | ⟨j, hj⟩
      · -- the watchdog has returned, so it does not await the session any more
        have hexit : d.pc = .exited := by
          have := List.any_eq_false.mp hguard d hd
          simpa [Watchdog.guards, hdc] using this
        exact (hwatchdogs.follows d hd (hdc ▸ hc)).ended (by rw [hexit]; rfl)
      · have hfired : s.fired j = true := by
          have := List.any_eq_false.mp hspawn _ hj
          simpa [SubscribePc.spawns] using this
        simp [Sys.hasEnded, hwatchdogs.spawning _ hj c j rfl, hfired]
    simp only [Sys.step, hi, Option.bind_some, Sys.callStep] at hs
    split at hs
    · cases hs
      intro hatt
      have hlt := (List.getElem?_eq_some_iff.mp hi).1
      have hrecv : (s.finalOutcome).receives c = true := by
        simp [Sys.finalOutcome, hparams, hc, SubscribePc.receives]
      rcases hatt hf c hc (List.any_eq_true.mpr ⟨_, List.mem_set hlt _, hrecv⟩) with he | hg
      · exact absurd (hended.symm.trans he) (by decide)
      · exact absurd (hguard.symm.trans hg) (by decide)
    · cases hs

/-- A session that ends under a viewer before its watchdog is spawned has nobody to reconnect it. -/
theorem unattended_of_sessionEnds {idleTimeout : Nat} {failedRx : Option Bool} {s s' : Sys}
    {j : Nat} (h : Reachable (system idleTimeout failedRx) s) (hf : s.failedRx ≠ some true)
    (hok : s.attachesGuarded (.sessionEnds j) = false)
    (hs : s.step (.sessionEnds j) = some s') : ¬ s'.Attended := by
  have hwatchdogs := watchdogs_of_reachable h
  cases hc : s.rtpTx with
  | none => simp [Sys.attachesGuarded, hc] at hok
  | some c =>
    simp only [Sys.attachesGuarded, hc, Option.all_some, Bool.not_eq_false',
      Bool.and_eq_true] at hok
    obtain ⟨hwatched, hspawn⟩ := hok
    obtain ⟨pc, hpc, hspawns⟩ := List.any_eq_true.mp hspawn
    cases pc with
    | spawnWatchdog tx k =>
      obtain ⟨htx, hk⟩ := Bool.and_eq_true_iff.mp hspawns
      have htx : tx = c := beq_iff_eq.mp htx
      have hk : k = j := beq_iff_eq.mp hk
      subst htx hk
      have hstep := step_of_eq hs
      have hsame : s'.calls = s.calls ∧ s'.watchdogs = s.watchdogs ∧ s'.rtpTx = s.rtpTx ∧
          s'.stop = s.stop ∧ s'.failedRx = s.failedRx := by
        cases hstep
        exact ⟨rfl, rfl, rfl, rfl, rfl⟩
      obtain ⟨hcalls, hwds, hrtp, hstop, hlatch⟩ := hsame
      intro hatt
      unfold Sys.Attended at hatt
      rw [hcalls, hwds, hrtp, hlatch] at hatt
      rcases hatt hf tx hc hwatched with he | hg
      · rw [Sys.hasEnded, hstop, hwatchdogs.spawning _ hpc tx k rfl] at he
        have hfired := fired_of_step hstep k
        rw [show Action.ends k (.sessionEnds k) = true from beq_self_eq_true k,
          Bool.or_true] at hfired
        exact absurd (hfired.symm.trans he) (by decide)
      · obtain ⟨i, hi⟩ := List.mem_iff_getElem?.mp hpc
        obtain ⟨d, hd, hdg⟩ := List.any_eq_true.mp hg
        obtain ⟨w, hw⟩ := List.mem_iff_getElem?.mp hd
        have hdtx : d.tx = tx := beq_iff_eq.mp (Bool.and_eq_true_iff.mp hdg).1
        exact (channels_of_reachable h).ne_of_call hi hw (by rw [hdtx]; rfl)
    | _ => cases hspawns

/-- A step that breaks the condition leaves an ended session with viewers that nobody reconnects. -/
theorem unattended_of_step {idleTimeout : Nat} {failedRx : Option Bool} {s s' : Sys} {a : Action}
    (h : Reachable (system idleTimeout failedRx) s) (hf : s.failedRx ≠ some true)
    (hok : s.attachesGuarded a = false) (hs : s.step a = some s') : ¬ s'.Attended := by
  cases a with
  | call i => exact unattended_of_call h hf hok hs
  | sessionEnds j => exact unattended_of_sessionEnds h hf hok hs
  | _ => cases hok

/-- In every run whose steps all meet the condition, an ended session with viewers has a running
watchdog as long as the auth-failed latch is not set. A channel is stored only while the state is
`Streaming`. -/
theorem endedSession_guarded {idleTimeout : Nat} {failedRx : Option Bool} {s : Sys}
    (h : ReachableWhere (system idleTimeout failedRx) (fun s a => s.attachesGuarded a = true) s)
    (hf : s.failedRx ≠ some true) {c : Nat} (hc : s.rtpTx = some c) (hw : s.watched c = true) :
    s.hasEnded = false ∨ s.guarded c = true :=
  attended_of_reachableWhere h hf c hc hw

/-- Session 0 ends under its only viewer, and the watchdog is about to reconnect it. -/
theorem endedSession_guarded_reconnecting :
    ∃ s, Reachable (system 60 (some false)) s ∧ s.hasEnded = true ∧ s.watched 0 = true ∧
      (s.hasEnded = false ∨ s.guarded 0 = true) := by
  obtain ⟨s, hr, hp⟩ := exists_reachableWhere_of_runWhere (system 60 (some false)) Sys.attachesGuarded
    (bringUp 0 0 ++ [.sessionEnds 0, .watchdog 0, .watchdog 0])
    (fun s => decide (s.failedRx = some false ∧ s.rtpTx = some 0 ∧ s.hasEnded = true ∧
      s.watched 0 = true)) (by decide +kernel)
  obtain ⟨hf, hc, hended, hw⟩ := of_decide_eq_true hp
  exact ⟨s, hr.reachable, hended, hw, endedSession_guarded hr (by rw [hf]; decide) hc hw⟩

/-- The viewer leaves and session 0 ends in the idle window, so the watchdog returns. A viewer who
attaches in the same window finds `Streaming` and watches an ended session for good. -/
theorem endedSession_left_alone :
    ¬ ∀ s, Reachable (system 60 (some false)) s → s.failedRx ≠ some true → s.state = .streaming →
      ∀ c, s.rtpTx = some c → s.watched c = true → s.hasEnded = false ∨ s.guarded c = true := by
  intro hall
  obtain ⟨s, hr, hp⟩ := exists_reachable_of_run (system 60 (some false))
    (bringUp 0 0 ++ [.dropSubscription 0, .viewerEvent, .sessionEnds 0, .watchdog 0,
      .watchdog 0, .subscribe, .call 1, .call 1, .call 1, .viewerEvent])
    (fun s => decide (s.failedRx = some false ∧ s.state = .streaming ∧ s.rtpTx = some 0 ∧
      s.watched 0 = true ∧ s.hasEnded = true ∧ s.guarded 0 = false)) (by decide +kernel)
  obtain ⟨hf, hst, hc, hw, hended, hguard⟩ := of_decide_eq_true hp
  rcases hall s hr (by rw [hf]; decide) hst 0 hc hw with h | h
  · exact absurd (hended.symm.trans h) (by decide)
  · exact absurd (hguard.symm.trans h) (by decide)

end Buddy3dProxy.Supervisor
