import Buddy3dProxy.Supervisor.Model

/-!
# What one step can do

`Step s a s'` lists the steps of the system one by one, each with the point its task is at, the guard
it passes and the state it leads to. `step_of_eq` is the inversion of `Sys.step`: the invariants are
proved by cases on it.
-/

namespace Buddy3dProxy.Supervisor

open Rtsp Tokio

inductive Step (s : Sys) : Action → Sys → Prop where
  | subscribe : Step s .subscribe s.subscribe
  | sendAttached {i : Nat} (hi : s.calls[i]? = some .counted) : Step s (.call i) (s.sendAttached i)
  | rejectBudget {i : Nat} (hi : s.calls[i]? = some .lockState) (hl : s.lockFree = true)
      (hs : s.state = .idle) (hb : (s.reconnectBudget.waitTime s.now).1 ≠ 0) :
      Step s (.call i) (s.rejectBudget i)
  | enterConnecting {i : Nat} (hi : s.calls[i]? = some .lockState) (hl : s.lockFree = true)
      (hs : s.state = .idle) (hb : (s.reconnectBudget.waitTime s.now).1 = 0) :
      Step s (.call i) (s.enterConnecting i)
  | foundConnecting {i : Nat} (hi : s.calls[i]? = some .lockState) (hl : s.lockFree = true)
      (hs : s.state = .connecting) : Step s (.call i) (s.moveCall i .watchSubscribe)
  | foundStreaming {i : Nat} (hi : s.calls[i]? = some .lockState) (hl : s.lockFree = true)
      (hs : s.state = .streaming) : Step s (.call i) (s.moveCall i .lockFinal)
  | startConnect {i : Nat} {params : H264Params} (hi : s.calls[i]? = some .startConnect) :
      Step s (.startConnect i params) (s.startConnect i params)
  | callConnectOk {i tx j : Nat} (hi : s.calls[i]? = some (.connect tx j))
      (hc : s.canSucceed j = true) :
      Step s (.callConnect i .ok) ((s.connectOk j).moveCall i (.connected tx j))
  | callConnectErr {i tx j : Nat} {e : SourceError} (hi : s.calls[i]? = some (.connect tx j)) :
      Step s (.callConnect i (.err e)) ((s.connectErr j).moveCall i (.connectFailed e))
  | resetToIdle {i : Nat} {e : SourceError} (hi : s.calls[i]? = some (.connectFailed e))
      (hl : s.lockFree = true) (hs : s.state = .connecting) : Step s (.call i) (s.resetToIdle i e)
  | noReset {i : Nat} {e : SourceError} (hi : s.calls[i]? = some (.connectFailed e))
      (hl : s.lockFree = true) (hs : s.state ≠ .connecting) :
      Step s (.call i) (s.moveCall i (.rollback .connectFailed e))
  | install {i tx j : Nat} {x : Session} (hi : s.calls[i]? = some (.connected tx j))
      (hl : s.lockFree = true) (hx : s.sessions[j]? = some x) :
      Step s (.call i) (s.install i tx j x.params)
  | spawnWatchdog {i tx j : Nat} (hi : s.calls[i]? = some (.spawnWatchdog tx j)) :
      Step s (.call i) (s.spawnWatchdog i tx j)
  | watchSubscribe {i : Nat} (hi : s.calls[i]? = some .watchSubscribe) :
      Step s (.call i) (s.watchSubscribe i)
  | watchRead {i : Nat} (hi : s.calls[i]? = some .watchRead) :
      Step s (.call i) (s.moveCall i s.watchOutcome)
  | watchChanged {i seen : Nat} (hi : s.calls[i]? = some (.watchChanged seen))
      (hv : s.stateWatch.version ≠ seen) : Step s (.call i) (s.moveCall i .watchRead)
  | watchDone {i : Nat} (hi : s.calls[i]? = some .watchDone) : Step s (.call i) (s.watchDone i)
  | lockFinal {i : Nat} (hi : s.calls[i]? = some .lockFinal) (hl : s.lockFree = true) :
      Step s (.call i) (s.moveCall i s.finalOutcome)
  | rollback {i : Nat} {x : FailureExit} {e : SourceError}
      (hi : s.calls[i]? = some (.rollback x e)) :
      Step s (.call i) (s.sendDetached i (.returning x e))
  | returning {i : Nat} {x : FailureExit} {e : SourceError}
      (hi : s.calls[i]? = some (.returning x e)) : Step s (.call i) (s.returnErr i x e)
  | cancelLock {i : Nat} (hi : s.calls[i]? = some .lockState) :
      Step s (.cancel i) (s.moveCall i (.cancelled false))
  | cancelConnect {i tx j : Nat} (hi : s.calls[i]? = some (.connect tx j)) :
      Step s (.cancel i) ((s.endAttempt j .cancelled).moveCall i (.cancelled true))
  | cancelFailed {i : Nat} {e : SourceError} (hi : s.calls[i]? = some (.connectFailed e)) :
      Step s (.cancel i) (s.moveCall i (.cancelled true))
  | cancelConnected {i tx j : Nat} (hi : s.calls[i]? = some (.connected tx j)) :
      Step s (.cancel i) ((s.dropHandle j).moveCall i (.cancelled true))
  | cancelWaiting {i seen : Nat} (hi : s.calls[i]? = some (.watchChanged seen)) :
      Step s (.cancel i)
        { s.moveCall i (.cancelled false) with stateWatch := s.stateWatch.dropReceiver }
  | cancelFinal {i : Nat} (hi : s.calls[i]? = some .lockFinal) :
      Step s (.cancel i) (s.moveCall i (.cancelled false))
  | dropSubscription {i : Nat} {sub : Subscription} (hi : s.calls[i]? = some (.live sub)) :
      Step s (.dropSubscription i) (s.sendDetached i .dropped)
  | play {i : Nat} {sub : Subscription} (hi : s.calls[i]? = some (.live sub)) :
      Step s (.play i) (s.play i sub)
  | forward {i next : Nat} {sub : Subscription} {r : Recv RtpPacket}
      (hi : s.calls[i]? = some (.live sub)) (hr : s.recv sub = some (r, next)) :
      Step s (.forward i) (s.moveCall i (.live { sub with next := next }))
  | sawEnded {w j : Nat} {d : Watchdog} {x : Session} (hw : s.watchdogs[w]? = some d)
      (hpc : d.pc = .awaitEnded j) (hx : s.sessions[j]? = some x) (he : x.ended = .fired) :
      Step s (.watchdog w) (s.moveWatchdog w d .checkViewers)
  | sawClosed {w j : Nat} {d : Watchdog} {x : Session} (hw : s.watchdogs[w]? = some d)
      (hpc : d.pc = .awaitEnded j) (hx : s.sessions[j]? = some x) (he : x.ended = .closed) :
      Step s (.watchdog w) (s.moveWatchdog w d .exited)
  | exitNoViewers {w : Nat} {d : Watchdog} (hw : s.watchdogs[w]? = some d)
      (hpc : d.pc = .checkViewers ∨ d.pc = .recheckViewers) (hv : s.viewerCount ≤ 0) :
      Step s (.watchdog w) (s.moveWatchdog w d .exited)
  | startRetrying {w : Nat} {d : Watchdog} (hw : s.watchdogs[w]? = some d)
      (hpc : d.pc = .checkViewers) (hv : ¬ s.viewerCount ≤ 0) :
      Step s (.watchdog w) (s.moveWatchdog w d .backoff)
  | watchdogSleep {w millis : Nat} {d : Watchdog} (hw : s.watchdogs[w]? = some d)
      (hpc : d.pc = .backoff) (hm : d.backoff.mayDelay millis = true) :
      Step s (.watchdogSleep w millis) (s.watchdogSleep w d millis)
  | wakeSame {w wake : Nat} {d : Watchdog} (hw : s.watchdogs[w]? = some d)
      (hpc : d.pc = .sleeping wake) (ht : wake ≤ s.now) (hl : s.lockFree = true)
      (hc : s.rtpTx = some d.tx) : Step s (.watchdog w) (s.moveWatchdog w d .recheckViewers)
  | wakeOther {w wake : Nat} {d : Watchdog} (hw : s.watchdogs[w]? = some d)
      (hpc : d.pc = .sleeping wake) (ht : wake ≤ s.now) (hl : s.lockFree = true)
      (hc : s.rtpTx ≠ some d.tx) : Step s (.watchdog w) (s.moveWatchdog w d .exited)
  | keepRetrying {w : Nat} {d : Watchdog} (hw : s.watchdogs[w]? = some d)
      (hpc : d.pc = .recheckViewers) (hv : ¬ s.viewerCount ≤ 0) :
      Step s (.watchdog w) (s.moveWatchdog w d .checkFailed)
  | sawFailed {w : Nat} {d : Watchdog} (hw : s.watchdogs[w]? = some d) (hpc : d.pc = .checkFailed)
      (hf : s.failedRx = some true) : Step s (.watchdog w) (s.moveWatchdog w d .exited)
  | watchdogConnect {w : Nat} {d : Watchdog} {params : H264Params}
      (hw : s.watchdogs[w]? = some d) (hpc : d.pc = .checkFailed) (hf : s.failedRx ≠ some true) :
      Step s (.watchdogConnect w params) (s.watchdogConnect w d params)
  | watchdogOk {w j : Nat} {d : Watchdog} (hw : s.watchdogs[w]? = some d)
      (hpc : d.pc = .connecting j) (hc : s.canSucceed j = true) :
      Step s (.watchdogResult w .ok) ((s.connectOk j).moveWatchdog w d (.connected j))
  | watchdogErr {w j : Nat} {d : Watchdog} {e : SourceError} (hw : s.watchdogs[w]? = some d)
      (hpc : d.pc = .connecting j) :
      Step s (.watchdogResult w (.err e))
        { (s.connectErr j).moveWatchdog w d .backoff with lastErrorAt := some s.now }
  | reinstall {w j : Nat} {d : Watchdog} (hw : s.watchdogs[w]? = some d)
      (hpc : d.pc = .connected j) (hl : s.lockFree = true) (hc : s.rtpTx = some d.tx) :
      Step s (.watchdog w) (s.reinstall w d j)
  | discard {w j : Nat} {d : Watchdog} (hw : s.watchdogs[w]? = some d)
      (hpc : d.pc = .connected j) (hl : s.lockFree = true) (hc : s.rtpTx ≠ some d.tx) :
      Step s (.watchdog w) (s.discard w d j)
  | onAttached {rest : List ViewerEvent} (hq : s.viewerEvents = .attached :: rest) :
      Step s .viewerEvent (s.onAttached rest)
  | onDetached {rest : List ViewerEvent} (hq : s.viewerEvents = .detached :: rest)
      (hv : ¬ s.viewerCount - 1 ≤ 0) : Step s .viewerEvent (s.onDetached rest)
  | onLastDetached {rest : List ViewerEvent} (hq : s.viewerEvents = .detached :: rest)
      (hv : s.viewerCount - 1 ≤ 0) : Step s .viewerEvent (s.onLastDetached rest)
  | timerGivesUp {t : Nat} {pc : TimerPc} (ht : s.timers[t]? = some pc) (hd : pc.due s.now = true)
      (hl : s.lockFree = true) (hv : s.viewerCount > 0) : Step s (.timer t) (s.moveTimer t .done)
  | timerTears {t : Nat} {pc : TimerPc} (ht : s.timers[t]? = some pc) (hd : pc.due s.now = true)
      (hl : s.lockFree = true) (hv : ¬ s.viewerCount > 0) :
      Step s (.timer t) (s.moveTimer t .tearing)
  | teardown {t : Nat} (ht : s.timers[t]? = some .tearing)
      (hs : s.state = .streaming ∨ s.state = .connecting) : Step s (.timer t) (s.teardown t)
  | teardownIdle {t : Nat} (ht : s.timers[t]? = some .tearing)
      (hs : ¬ (s.state = .streaming ∨ s.state = .connecting)) :
      Step s (.timer t) (s.moveTimer t .done)
  | timerStops {t : Nat} (ht : s.timers[t]? = some .late) :
      Step s (.timerStops t) (s.moveTimer t .aborted)
  | register {j : Nat} {x : Session} (hx : s.sessions[j]? = some x) (hp : x.phase = .starting) :
      Step s (.register j) (s.register j)
  | sessionEnds {j : Nat} {x : Session} (hx : s.sessions[j]? = some x) (hp : x.phase ≠ .starting)
      (he : x.ended = .pending) : Step s (.sessionEnds j) (s.setEnded j .fired)
  | sessionKilled {j : Nat} {x : Session} (hx : s.sessions[j]? = some x) (hp : x.stopped = true)
      (he : x.ended = .pending) : Step s (.sessionKilled j) (s.setEnded j .closed)
  | rtp {j : Nat} {x : Session} {pkt : RtpPacket} (hx : s.sessions[j]? = some x)
      (hp : x.phase ≠ .starting) (ht : pkt.header.payloadType = x.params.payloadType)
      (h7 : pkt.header.payloadType < 128) : Step s (.rtp j pkt) (s.sendRtp x.tx pkt)
  | clear {k : Nat} (hk : k < s.clears.length) :
      Step s (.clear k) { s with liveOutbound := none, clears := s.clears.eraseIdx k }
  | stateChanges :
      Step s .stateChanges
        { s with stateReceivers := s.stateReceivers + 1, stateWatch := s.stateWatch.subscribe }
  | dropStateChanges (hr : 0 < s.stateReceivers) :
      Step s .dropStateChanges
        { s with
          stateReceivers := s.stateReceivers - 1
          stateWatch := s.stateWatch.dropReceiver }
  | snapshot (hl : s.lockFree = true) : Step s .snapshot s.snapshot.2
  | authFailed : Step s .authFailed { s with failedRx := s.failedRx.map fun _ => true }
  | tick {d : Nat} : Step s (.tick d) { s with now := s.now + d }

variable {s s' : Sys}

theorem step_of_callStep {i : Nat} {pc : SubscribePc} (hi : s.calls[i]? = some pc)
    (h : s.callStep i pc = some s') : Step s (.call i) s' := by
  cases pc with
  | lockState =>
    simp only [Sys.callStep] at h
    split at h
    · rename_i hl
      split at h
      · rename_i hs
        split at h <;> cases h
        · exact .rejectBudget hi hl hs ‹_›
        · exact .enterConnecting hi hl hs (not_not.mp ‹_›)
      · cases h; exact .foundConnecting hi hl ‹_›
      · cases h; exact .foundStreaming hi hl ‹_›
    · cases h
  | connectFailed e =>
    simp only [Sys.callStep] at h
    split at h
    · split at h <;> cases h
      · exact .resetToIdle hi ‹_› ‹_›
      · exact .noReset hi ‹_› ‹_›
    · cases h
  | connected tx j =>
    simp only [Sys.callStep] at h
    split at h
    · obtain ⟨x, hx, rfl⟩ := Option.map_eq_some_iff.mp h
      exact .install hi ‹_› hx
    · cases h
  | watchChanged seen =>
    simp only [Sys.callStep] at h
    split at h <;> cases h
    exact .watchChanged hi ‹_›
  | lockFinal =>
    simp only [Sys.callStep] at h
    split at h <;> cases h
    exact .lockFinal hi ‹_›
  | counted => cases h; exact .sendAttached hi
  | spawnWatchdog tx j => cases h; exact .spawnWatchdog hi
  | watchSubscribe => cases h; exact .watchSubscribe hi
  | watchRead => cases h; exact .watchRead hi
  | watchDone => cases h; exact .watchDone hi
  | rollback x e => cases h; exact .rollback hi
  | returning x e => cases h; exact .returning hi
  | startConnect | connect | live | dropped | failed | panicked | cancelled => cases h

theorem step_of_cancelStep {i : Nat} {pc : SubscribePc} (hi : s.calls[i]? = some pc)
    (h : s.cancelStep i pc = some s') : Step s (.cancel i) s' := by
  cases pc with
  | lockState => cases h; exact .cancelLock hi
  | connect tx j => cases h; exact .cancelConnect hi
  | connectFailed e => cases h; exact .cancelFailed hi
  | connected tx j => cases h; exact .cancelConnected hi
  | watchChanged seen => cases h; exact .cancelWaiting hi
  | lockFinal => cases h; exact .cancelFinal hi
  | _ => cases h

theorem step_of_watchdogStep {w : Nat} {d : Watchdog} (hw : s.watchdogs[w]? = some d)
    (h : s.watchdogStep w d = some s') : Step s (.watchdog w) s' := by
  unfold Sys.watchdogStep at h
  cases hpc : d.pc with
  | awaitEnded j =>
    simp only [hpc] at h
    split at h
    · rename_i x hx
      split at h <;> cases h
      · exact .sawEnded hw hpc hx ‹_›
      · exact .sawClosed hw hpc hx ‹_›
    · cases h
  | checkViewers =>
    simp only [hpc] at h
    split at h <;> cases h
    · exact .exitNoViewers hw (Or.inl hpc) ‹_›
    · exact .startRetrying hw hpc ‹_›
  | sleeping wake =>
    simp only [hpc, Sys.sameChannel] at h
    split at h
    · rename_i hg
      obtain ⟨ht, hl⟩ := Bool.and_eq_true_iff.mp hg
      by_cases hc : s.rtpTx = some d.tx
      · simp only [hc, beq_self_eq_true, if_true] at h
        cases h
        exact .wakeSame hw hpc (of_decide_eq_true ht) hl hc
      · simp only [beq_eq_false_iff_ne.mpr hc, Bool.false_eq_true, if_false] at h
        cases h
        exact .wakeOther hw hpc (of_decide_eq_true ht) hl hc
    · cases h
  | recheckViewers =>
    simp only [hpc] at h
    split at h <;> cases h
    · exact .exitNoViewers hw (Or.inr hpc) ‹_›
    · exact .keepRetrying hw hpc ‹_›
  | checkFailed =>
    simp only [hpc] at h
    split at h <;> cases h
    exact .sawFailed hw hpc ‹_›
  | connected j =>
    simp only [hpc, Sys.sameChannel] at h
    split at h
    · by_cases hc : s.rtpTx = some d.tx
      · simp only [hc, beq_self_eq_true, if_true] at h
        cases h
        exact .reinstall hw hpc ‹_› hc
      · simp only [beq_eq_false_iff_ne.mpr hc, Bool.false_eq_true, if_false] at h
        cases h
        exact .discard hw hpc ‹_› hc
    · cases h
  | backoff | connecting | exited => simp [hpc] at h

theorem step_of_timerStep {t : Nat} {pc : TimerPc} (ht : s.timers[t]? = some pc)
    (h : s.timerStep t pc = some s') : Step s (.timer t) s' := by
  cases pc with
  | sleeping | late =>
    simp only [Sys.timerStep] at h
    split at h
    · rename_i hg
      obtain ⟨hd, hl⟩ := Bool.and_eq_true_iff.mp hg
      split at h <;> cases h
      · exact .timerGivesUp ht hd hl ‹_›
      · exact .timerTears ht hd hl ‹_›
    · cases h
  | tearing =>
    simp only [Sys.timerStep] at h
    split at h <;> cases h
    · exact .teardown ht ‹_›
    · exact .teardownIdle ht ‹_›
  | done | aborted => cases h

/-- Every step of the system is one of the listed ones. -/
theorem step_of_eq {a : Action} (h : s.step a = some s') : Step s a s' := by
  cases a with
  | call i =>
    obtain ⟨pc, hi, h⟩ := Option.bind_eq_some_iff.mp h
    exact step_of_callStep hi h
  | cancel i =>
    obtain ⟨pc, hi, h⟩ := Option.bind_eq_some_iff.mp h
    exact step_of_cancelStep hi h
  | watchdog w =>
    obtain ⟨d, hw, h⟩ := Option.bind_eq_some_iff.mp h
    exact step_of_watchdogStep hw h
  | timer t =>
    obtain ⟨pc, ht, h⟩ := Option.bind_eq_some_iff.mp h
    exact step_of_timerStep ht h
  | timerStops t =>
    simp only [Sys.step, Option.ite_none_right_eq_some, Option.some.injEq] at h
    obtain ⟨ht, rfl⟩ := h
    exact .timerStops ht
  | startConnect i params =>
    simp only [Sys.step] at h
    split at h <;> cases h
    exact .startConnect ‹_›
  | callConnect i r =>
    simp only [Sys.step] at h
    split at h
    · rename_i tx j hi
      cases r with
      | ok =>
        simp only [Sys.callConnectStep] at h
        split at h <;> cases h
        exact .callConnectOk hi ‹_›
      | err e => cases h; exact .callConnectErr hi
    · cases h
  | dropSubscription i =>
    simp only [Sys.step] at h
    split at h <;> cases h
    exact .dropSubscription ‹_›
  | play i =>
    simp only [Sys.step] at h
    split at h <;> cases h
    exact .play ‹_›
  | forward i =>
    simp only [Sys.step] at h
    split at h
    · obtain ⟨⟨r, next⟩, hr, rfl⟩ := Option.map_eq_some_iff.mp h
      exact .forward ‹_› hr
    · cases h
  | watchdogSleep w millis =>
    simp only [Sys.step] at h
    split at h
    · split at h <;> cases h
      rename_i hg
      exact .watchdogSleep ‹_› hg.1 hg.2
    · cases h
  | watchdogConnect w params =>
    simp only [Sys.step] at h
    split at h
    · split at h <;> cases h
      rename_i hg
      exact .watchdogConnect ‹_› hg.1 hg.2
    · cases h
  | watchdogResult w r =>
    simp only [Sys.step] at h
    split at h
    · rename_i d hw
      split at h
      · rename_i j hpc
        cases r with
        | ok =>
          simp only [Sys.watchdogConnectStep] at h
          split at h <;> cases h
          exact .watchdogOk hw hpc ‹_›
        | err e => cases h; exact .watchdogErr hw hpc
      · cases h
    · cases h
  | viewerEvent =>
    simp only [Sys.step] at h
    split at h
    · cases h
    · cases h; exact .onAttached ‹_›
    · split at h <;> cases h
      · exact .onLastDetached ‹_› ‹_›
      · exact .onDetached ‹_› ‹_›
  | register j =>
    simp only [Sys.step] at h
    split at h <;> cases h
    rename_i hg
    obtain ⟨x, hx, hp⟩ := (Option.any_eq_true _ _).mp hg
    exact .register hx (by simpa using hp)
  | sessionEnds j =>
    simp only [Sys.step] at h
    split at h <;> cases h
    rename_i hg
    obtain ⟨x, hx, hp⟩ := (Option.any_eq_true _ _).mp hg
    simp only [Bool.and_eq_true, bne_iff_ne, beq_iff_eq] at hp
    exact .sessionEnds hx hp.1 hp.2
  | sessionKilled j =>
    simp only [Sys.step] at h
    split at h <;> cases h
    rename_i hg
    obtain ⟨x, hx, hp⟩ := (Option.any_eq_true _ _).mp hg
    simp only [Bool.and_eq_true, beq_iff_eq] at hp
    exact .sessionKilled hx hp.1 hp.2
  | rtp j pkt =>
    simp only [Sys.step] at h
    split at h
    · split at h <;> cases h
      rename_i hg
      exact .rtp ‹_› hg.1 hg.2.1 hg.2.2
    · cases h
  | clear k =>
    simp only [Sys.step] at h
    split at h <;> cases h
    exact .clear ‹_›
  | dropStateChanges =>
    simp only [Sys.step] at h
    split at h <;> cases h
    exact .dropStateChanges ‹_›
  | subscribe => cases h; exact .subscribe
  | stateChanges => cases h; exact .stateChanges
  | snapshot =>
    simp only [Sys.step] at h
    split at h <;> cases h
    exact .snapshot ‹_›
  | authFailed => cases h; exact .authFailed
  | tick d => cases h; exact .tick

/-- Whoever changes the state sends it on the watch channel in the same section. -/
theorem Step.state_change {a : Action} (hs : Step s a s') :
    (s'.state = s.state ∧ s'.stateWatch.version = s.stateWatch.version) ∨
      s'.stateWatch = s.stateWatch.send s'.state := by
  cases hs with
  | @returning i x => cases x <;> exact .inl ⟨rfl, rfl⟩
  | _ => first | exact .inl ⟨rfl, rfl⟩ | exact .inr rfl

/-- The induction rule for invariants of the supervisor: what holds of a new supervisor and is kept
by every listed step from a reachable state holds in every reachable state. -/
theorem invariant_of_steps {idleTimeout : Nat} {failedRx : Option Bool}
    {ok : Sys → Action → Prop} {P : Sys → Prop} (hinit : P (Sys.new idleTimeout failedRx 0))
    (hstep : ∀ {s a s'}, Transition.ReachableWhere (system idleTimeout failedRx) ok s → ok s a →
      P s → Step s a s' → P s')
    (h : Transition.ReachableWhere (system idleTimeout failedRx) ok s) : P s :=
  h.induct hinit fun _ _ _ hr hok hs hp => hstep hr hok hp (step_of_eq hs)

/-! ## The stored stop handle

Dropping it marks a session as stopped. What does not look at this mark does not change. -/

theorem Sys.map_dropStored (s : Sys) {β : Type*} {f : Session → β}
    (hf : ∀ x, f { x with stopped := true } = f x) :
    s.dropStored.sessions.map f = s.sessions.map f := by
  unfold Sys.dropStored
  cases s.stop with
  | none => rfl
  | some k => exact Transition.Pool.map_modify_eq fun x _ => hf x

theorem Sys.any_dropStored (s : Sys) {q : Session → Bool} {j : Nat}
    (hq : ∀ x, q { x with stopped := true } = q x) :
    s.dropStored.sessions[j]?.any q = s.sessions[j]?.any q := by
  unfold Sys.dropStored
  cases s.stop with
  | none => rfl
  | some k => exact Transition.Pool.any_modify fun x _ => hq x

/-! ## Runs that witnesses share -/

/-- Parameters as a camera negotiates them. -/
def stubParams : H264Params := ⟨"42c01e", "Z0L,aM4", 1, 96⟩

/-- The run in which the viewer with call `i` finds the supervisor idle and brings up session `j`. -/
def bringUp (i j : Nat) : List Action :=
  [.subscribe, .call i, .call i, .startConnect i stubParams, .register j, .callConnect i .ok, .call i,
    .call i, .call i, .viewerEvent]

/-- The run in which session 0 ends under its viewer and is replaced by session 1, which negotiates
`params`. -/
def reconnect (params : H264Params) : List Action :=
  [.sessionEnds 0, .watchdog 0, .watchdog 0, .watchdogSleep 0 1000, .tick 1000000000, .watchdog 0,
    .watchdog 0, .watchdogConnect 0 params, .register 1, .watchdogResult 0 .ok, .watchdog 0]

end Buddy3dProxy.Supervisor
