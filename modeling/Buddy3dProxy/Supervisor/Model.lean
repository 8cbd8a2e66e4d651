import Buddy3dProxy.Backoff
import Buddy3dProxy.ReconnectBudget
import Buddy3dProxy.Rtsp.Packet
import Buddy3dProxy.Rtsp.Sdp
import Buddy3dProxy.Tokio.Broadcast
import Buddy3dProxy.Tokio.Watch
import Buddy3dProxy.Transition.Pool
import Buddy3dProxy.Transition.System

/-!
# The supervisor as a transition system

The tasks that share a `Supervisor` of `supervisor/mod.rs`: any number of `subscribe()` calls and of
the subscriptions they return, the reconnect watchdogs, the viewer-event loop and its idle timers,
the sessions that `WebRtcFactory::connect` brings up, and the deferred clears of the `live_outbound`
registry. A step of the system is one step of one task between two points at which another task may
run on another thread: an access to the state mutex together with the section it guards, an access
to an atomic, to a channel or to another shared cell.

A section under the state mutex is one step, since nobody else can see the slots in between. The one
exception is `teardown_session`, which tests the viewer count (changed without the lock) before it
rewrites the slots: it is two steps, and no other task enters the mutex between them (`lockFree`).
The cells that only `snapshot()` reads (`session_started_at`, `last_error_at` and the number of
reconnects) are written together with the section next to them.
-/

namespace Buddy3dProxy.Supervisor

open Rtsp Tokio

inductive State where
  | idle
  | connecting
  | streaming
  deriving DecidableEq, Repr

inductive SourceError where
  | unavailable (reason : String)
  deriving DecidableEq, Repr

inductive ViewerEvent where
  | attached
  | detached
  deriving DecidableEq, Repr

/-- A viewer's handle: the cached parameters and a receiver of the broadcast channel `rtp`, whose
next packet is at position `next`. -/
structure Subscription where
  h264 : H264Params
  rtp : Nat
  next : Nat
  deriving DecidableEq, Repr

/-- Where `subscribe()` gives up. -/
inductive FailureExit where
  /-- Idle, and the reconnect budget is spent. -/
  | budgetExhausted
  /-- The connect attempt of this call failed. -/
  | connectFailed
  /-- The call waited for another one's attempt and read `Idle` from the watch. -/
  | sawIdle
  deriving DecidableEq, Repr

/-- The points a `subscribe()` call and the subscription it returns go through. `tx` is the broadcast
channel the call created, `session` its connect attempt. -/
inductive SubscribePc where
  /-- The viewer is counted, `Attached` is not yet sent. -/
  | counted
  /-- About to lock the state for the first time. -/
  | lockState
  /-- `Connecting` is written; `connect_session` is about to start. -/
  | startConnect
  /-- Inside `factory.connect()`. -/
  | connect (tx session : Nat)
  /-- The attempt failed; the state is to be reset. -/
  | connectFailed (e : SourceError)
  /-- The attempt succeeded; the session is to be installed. -/
  | connected (tx session : Nat)
  /-- The session is installed, its watchdog not yet spawned. -/
  | spawnWatchdog (tx session : Nat)
  /-- Found `Connecting`; about to subscribe to the watch. -/
  | watchSubscribe
  /-- Holds a receiver and is about to read it. -/
  | watchRead
  /-- Waits in `changed()`, having seen the given version. -/
  | watchChanged (seen : Nat)
  /-- Read `Streaming`; about to drop the receiver. -/
  | watchDone
  /-- About to lock the state for the final section. -/
  | lockFinal
  /-- About to send `Detached` and fail. -/
  | rollback (x : FailureExit) (e : SourceError)
  /-- Rolled back, about to return the error. -/
  | returning (x : FailureExit) (e : SourceError)
  /-- Returned `Ok`; the subscription is live. -/
  | live (sub : Subscription)
  /-- The subscription was dropped. -/
  | dropped
  | failed (e : SourceError)
  /-- An `expect` of the final section fired. -/
  | panicked
  /-- The future was dropped at an await; `owner` if that was before its outcome was written. -/
  | cancelled (owner : Bool)
  deriving DecidableEq, Repr

/-- The points `reconnect_watchdog` goes through. -/
inductive WatchdogPc where
  /-- `ended.await` on the session. -/
  | awaitEnded (session : Nat)
  /-- The session ended; about to look at the viewer count. -/
  | checkViewers
  /-- At the head of the retry loop. -/
  | backoff
  /-- Sleeping, then locking the state. -/
  | sleeping (wake : Nat)
  /-- The channel is still the stored one; about to look at the viewer count again. -/
  | recheckViewers
  /-- About to look at the auth-failed latch. -/
  | checkFailed
  /-- Inside `factory.connect()`. -/
  | connecting (session : Nat)
  /-- The attempt succeeded; about to lock the state. -/
  | connected (session : Nat)
  | exited
  deriving DecidableEq, Repr

/-- A watchdog task with its broadcast channel. -/
structure Watchdog where
  tx : Nat
  backoff : ExpBackoff
  pc : WatchdogPc
  deriving DecidableEq, Repr

/-- An idle-timer task. -/
inductive TimerPc where
  /-- Sleeping until the deadline, then waiting for the state mutex. -/
  | sleeping (deadline : Nat)
  /-- Holds the state mutex and has found no viewer. -/
  | tearing
  /-- Aborted when it was due. A timer that is being polled goes on to its next await, and a free mutex
  is none. -/
  | late
  /-- Ran its teardown. -/
  | done
  /-- Aborted before it got the mutex. -/
  | aborted
  deriving DecidableEq, Repr

/-- The timer is out of its sleep. -/
def TimerPc.due (now : Nat) : TimerPc → Bool
  | sleeping deadline => deadline ≤ now
  | late => true
  | _ => false

/-- How far a `factory.connect()` attempt has come. -/
inductive ConnectPhase where
  /-- Before the outbound sender is registered. -/
  | starting
  /-- Registered, waiting for the session to be ready. -/
  | registered
  | ready
  | failed
  /-- The future was dropped. -/
  | cancelled
  deriving DecidableEq, Repr

/-- The `ended` signal of a session: fired when the session ended on its own, closed when it was
killed through its stop handle. -/
inductive EndSignal where
  | pending
  | fired
  | closed
  deriving DecidableEq, Repr

/-- One connect attempt and the session it brings up. `params` is what `connect()` returns if it
succeeds, `stopped` whether the stop handle (or the joiner inside it) has been dropped. -/
structure Session where
  tx : Nat
  params : H264Params
  phase : ConnectPhase
  ended : EndSignal
  stopped : Bool
  deriving DecidableEq, Repr

/-- The supervisor with its tasks and its environment. -/
structure Sys where
  idleTimeout : Nat
  viewerCount : Int
  state : State
  /-- The stored broadcast channel. -/
  rtpTx : Option Nat
  /-- The session whose stop handle is stored. -/
  stop : Option Nat
  h264 : Option H264Params
  /-- The queue behind `viewer_tx`. -/
  viewerEvents : List ViewerEvent
  wssReconnectsTotal : Nat
  lastErrorAt : Option Nat
  sessionStartedAt : Option Nat
  reconnectBudget : ReconnectBudget
  /-- The auth-failed latch, if the supervisor was given one. -/
  failedRx : Option Bool
  stateWatch : Watch State
  calls : List SubscribePc
  watchdogs : List Watchdog
  timers : List TimerPc
  /-- The handle the viewer-event loop keeps. -/
  idleTimer : Option Nat
  sessions : List Session
  /-- The broadcast channels created so far. -/
  channels : List (Broadcast RtpPacket)
  /-- Receivers handed out by `state_changes()` and not yet dropped. -/
  stateReceivers : Nat
  /-- The session whose outbound sender is registered. -/
  liveOutbound : Option Nat
  /-- The deferred clears not yet run, with the session whose drop spawned each. -/
  clears : List Nat
  now : Nat

namespace Sys

/-- `Supervisor::new` at the instant `now`. -/
def new (idleTimeout : Nat) (failedRx : Option Bool) (now : Nat) : Sys where
  idleTimeout := idleTimeout
  viewerCount := 0
  state := .idle
  rtpTx := none
  stop := none
  h264 := none
  viewerEvents := []
  wssReconnectsTotal := 0
  lastErrorAt := none
  sessionStartedAt := none
  reconnectBudget := .default now
  failedRx := failedRx
  stateWatch := .new .idle
  calls := []
  watchdogs := []
  timers := []
  idleTimer := none
  sessions := []
  channels := []
  stateReceivers := 0
  liveOutbound := none
  clears := []
  now := now

variable (s : Sys)

/-- Nobody is inside `teardown_session` with the mutex held. -/
def lockFree : Bool := s.timers.all (· != .tearing)

/-- One task of each kind moves, and nothing else changes. -/
def moveCall (i : Nat) (pc : SubscribePc) : Sys := { s with calls := s.calls.set i pc }

def moveWatchdog (w : Nat) (d : Watchdog) (pc : WatchdogPc) : Sys :=
  { s with watchdogs := s.watchdogs.set w { d with pc := pc } }

def moveTimer (t : Nat) (pc : TimerPc) : Sys := { s with timers := s.timers.set t pc }

/-! ## Sessions -/

/-- A new connect attempt on the channel `tx`. -/
def startSession (tx : Nat) (params : H264Params) : Session :=
  { tx := tx, params := params, phase := .starting, ended := .pending, stopped := false }

/-- The stop handle of session `j` is dropped: the session is killed, and the clear of the outbound
registry is handed to a task of its own (`Joiner::drop`). -/
def dropHandle (j : Nat) : Sys :=
  { s with
    sessions := s.sessions.modify j fun x => { x with stopped := true }
    clears := s.clears ++ [j] }

/-- The stored stop handle is dropped, if there is one. -/
def dropStored : Sys :=
  { s with
    sessions := s.stop.elim s.sessions fun j =>
      s.sessions.modify j fun x => { x with stopped := true }
    clears := s.clears ++ s.stop.toList }

/-- The connect future of attempt `j` ends without a stop handle in the phase `ph` (failed or
cancelled). Its joiner exists, and is dropped, from the registration on. -/
def endAttempt (j : Nat) (ph : ConnectPhase) : Sys :=
  { s with
    sessions := s.sessions.modify j fun x => { x with phase := ph, stopped := true }
    clears :=
      if s.sessions[j]?.any (·.phase == .registered) then s.clears ++ [j] else s.clears }

/-- `budgeted_connect` when the factory returns `Ok`. -/
def connectOk (j : Nat) : Sys :=
  { s with
    sessions := s.sessions.modify j fun x => { x with phase := .ready }
    reconnectBudget := s.reconnectBudget.recordSuccess s.now }

/-- `budgeted_connect` when the factory returns `Err`. -/
def connectErr (j : Nat) : Sys :=
  { s.endAttempt j .failed with reconnectBudget := s.reconnectBudget.recordFailure s.now }

/-- The attempt can succeed: it waits for readiness and its session has not ended. -/
def canSucceed (j : Nat) : Bool :=
  s.sessions[j]?.any fun x => x.phase == .registered && x.ended == .pending

/-! ## `subscribe()` -/

def subscribe : Sys := { s with viewerCount := s.viewerCount + 1, calls := s.calls ++ [.counted] }

def sendAttached (i : Nat) : Sys :=
  { s.moveCall i .lockState with viewerEvents := s.viewerEvents ++ [.attached] }

/-- Idle and out of budget. -/
def rejectBudget (i : Nat) : Sys :=
  let (wait, budget) := s.reconnectBudget.waitTime s.now
  { s.moveCall i (.rollback .budgetExhausted (.unavailable
      ("reconnect budget exhausted; next attempt allowed in " ++
        toString (wait / nanosPerSec) ++ "s"))) with
    reconnectBudget := budget }

/-- Idle with budget: this call brings the session up. -/
def enterConnecting (i : Nat) : Sys :=
  { s.moveCall i .startConnect with
    reconnectBudget := (s.reconnectBudget.waitTime s.now).2
    state := .connecting
    stateWatch := s.stateWatch.send .connecting }

/-- `connect_session` creates the broadcast channel and calls the factory. -/
def startConnect (i : Nat) (params : H264Params) : Sys :=
  { s.moveCall i (.connect s.channels.length s.sessions.length) with
    channels := s.channels ++ [.channel 256]
    sessions := s.sessions ++ [startSession s.channels.length params] }

/-- The failed attempt is made visible to the waiting calls. -/
def resetToIdle (i : Nat) (e : SourceError) : Sys :=
  { s.moveCall i (.rollback .connectFailed e) with
    state := .idle
    stateWatch := s.stateWatch.send .idle }

/-- The session is installed. The cell is set only if it is empty. -/
def install (i tx j : Nat) (params : H264Params) : Sys :=
  { s.dropStored.moveCall i (.spawnWatchdog tx j) with
    state := .streaming
    stateWatch := s.stateWatch.send .streaming
    rtpTx := some tx
    stop := some j
    h264 := s.h264.or (some params)
    sessionStartedAt := some s.now }

def spawnWatchdog (i tx j : Nat) : Sys :=
  { s.moveCall i .lockFinal with
    watchdogs := s.watchdogs ++ [{ tx := tx, backoff := .new, pc := .awaitEnded j }] }

def watchSubscribe (i : Nat) : Sys :=
  { s.moveCall i .watchRead with stateWatch := s.stateWatch.subscribe }

/-- What the waiting loop does with the value it reads. -/
def watchOutcome : SubscribePc :=
  match s.stateWatch.value with
  | .streaming => .watchDone
  | .idle => .rollback .sawIdle (.unavailable "session connect failed")
  | .connecting => .watchChanged s.stateWatch.version

def watchDone (i : Nat) : Sys :=
  { s.moveCall i .lockFinal with stateWatch := s.stateWatch.dropReceiver }

/-- The final section: both `expect`s have to find a value. -/
def finalOutcome : SubscribePc :=
  match s.h264, s.rtpTx with
  | some h264, some tx =>
    .live { h264 := h264, rtp := tx, next := (s.channels[tx]?.map Broadcast.tail).getD 0 }
  | _, _ => .panicked

def sendDetached (i : Nat) (pc : SubscribePc) : Sys :=
  { s.moveCall i pc with viewerEvents := s.viewerEvents ++ [.detached] }

/-- The error is returned. A waiting call drops its receiver here, a failed attempt stamps the time
of the error. -/
def returnErr (i : Nat) (x : FailureExit) (e : SourceError) : Sys :=
  { s.moveCall i (.failed e) with
    stateWatch := if x = .sawIdle then s.stateWatch.dropReceiver else s.stateWatch
    lastErrorAt := if x = .connectFailed then some s.now else s.lastErrorAt }

/-- The next step of a `subscribe()` call that is not inside `factory.connect()`. A waiting call
never sees the watch closed, since the supervisor it borrows owns the sender. -/
def callStep (i : Nat) : SubscribePc → Option Sys
  | .counted => some (s.sendAttached i)
  | .lockState =>
    if s.lockFree then
      match s.state with
      | .idle =>
        if (s.reconnectBudget.waitTime s.now).1 ≠ 0 then some (s.rejectBudget i)
        else some (s.enterConnecting i)
      | .connecting => some (s.moveCall i .watchSubscribe)
      | .streaming => some (s.moveCall i .lockFinal)
    else none
  | .connectFailed e =>
    if s.lockFree then
      if s.state = .connecting then some (s.resetToIdle i e)
      else some (s.moveCall i (.rollback .connectFailed e))
    else none
  | .connected tx j =>
    if s.lockFree then s.sessions[j]?.map fun x => s.install i tx j x.params else none
  | .spawnWatchdog tx j => some (s.spawnWatchdog i tx j)
  | .watchSubscribe => some (s.watchSubscribe i)
  | .watchRead => some (s.moveCall i s.watchOutcome)
  | .watchChanged seen =>
    if s.stateWatch.version ≠ seen then some (s.moveCall i .watchRead) else none
  | .watchDone => some (s.watchDone i)
  | .lockFinal => if s.lockFree then some (s.moveCall i s.finalOutcome) else none
  | .rollback x e => some (s.sendDetached i (.returning x e))
  | .returning x e => some (s.returnErr i x e)
  | _ => none

/-- The future of a call is dropped at an await. Nothing is sent; what the future owns is dropped. -/
def cancelStep (i : Nat) : SubscribePc → Option Sys
  | .lockState => some (s.moveCall i (.cancelled false))
  | .connect _ j => some ((s.endAttempt j .cancelled).moveCall i (.cancelled true))
  | .connectFailed _ => some (s.moveCall i (.cancelled true))
  | .connected _ j => some ((s.dropHandle j).moveCall i (.cancelled true))
  | .watchChanged _ =>
    some { s.moveCall i (.cancelled false) with stateWatch := s.stateWatch.dropReceiver }
  | .lockFinal => some (s.moveCall i (.cancelled false))
  | _ => none

/-- The outcome of `factory.connect()`. -/
inductive ConnectResult where
  | ok
  | err (e : SourceError)
  deriving DecidableEq, Repr

/-- A `subscribe()` call learns the outcome of its attempt. -/
def callConnectStep (i tx j : Nat) : ConnectResult → Option Sys
  | .ok => if s.canSucceed j then some ((s.connectOk j).moveCall i (.connected tx j)) else none
  | .err e => some ((s.connectErr j).moveCall i (.connectFailed e))

/-! ## `reconnect_watchdog` -/

def sameChannel (d : Watchdog) : Bool := s.rtpTx == some d.tx

/-- The watchdog puts itself to sleep for the longer of the backoff and the budget's wait. -/
def watchdogSleep (w : Nat) (d : Watchdog) (millis : Nat) : Sys :=
  let (wait, budget) := s.reconnectBudget.waitTime s.now
  { s.moveWatchdog w { d with backoff := d.backoff.next }
      (.sleeping (s.now + max (millis * nanosPerMilli) wait)) with
    reconnectBudget := budget }

/-- A reconnect attempt on the watchdog's channel. -/
def watchdogConnect (w : Nat) (d : Watchdog) (params : H264Params) : Sys :=
  { s.moveWatchdog w d (.connecting s.sessions.length) with
    sessions := s.sessions ++ [startSession d.tx params] }

/-- The reconnected session replaces the stored one. -/
def reinstall (w : Nat) (d : Watchdog) (j : Nat) : Sys :=
  { s.dropStored.moveWatchdog w { d with backoff := d.backoff.reset } (.awaitEnded j) with
    stop := some j
    state := .streaming
    stateWatch := s.stateWatch.send .streaming
    sessionStartedAt := some s.now
    wssReconnectsTotal := s.wssReconnectsTotal + 1 }

def discard (w : Nat) (d : Watchdog) (j : Nat) : Sys := (s.dropHandle j).moveWatchdog w d .exited

/-- The next step of a watchdog that needs no choice. -/
def watchdogStep (w : Nat) (d : Watchdog) : Option Sys :=
  match d.pc with
  | .awaitEnded j =>
    match s.sessions[j]? with
    | some x =>
      match x.ended with
      | .pending => none
      | .fired => some (s.moveWatchdog w d .checkViewers)
      | .closed => some (s.moveWatchdog w d .exited)
    | none => none
  | .checkViewers =>
    some (s.moveWatchdog w d (if s.viewerCount ≤ 0 then .exited else .backoff))
  | .sleeping wake =>
    if wake ≤ s.now && s.lockFree then
      some (s.moveWatchdog w d (if s.sameChannel d then .recheckViewers else .exited))
    else none
  | .recheckViewers =>
    some (s.moveWatchdog w d (if s.viewerCount ≤ 0 then .exited else .checkFailed))
  | .checkFailed => if s.failedRx = some true then some (s.moveWatchdog w d .exited) else none
  | .connected j =>
    if s.lockFree then
      if s.sameChannel d then some (s.reinstall w d j) else some (s.discard w d j)
    else none
  | _ => none

/-- A watchdog learns the outcome of its attempt. -/
def watchdogConnectStep (w : Nat) (d : Watchdog) (j : Nat) : ConnectResult → Option Sys
  | .ok => if s.canSucceed j then some ((s.connectOk j).moveWatchdog w d (.connected j)) else none
  | .err _ => some { (s.connectErr j).moveWatchdog w d .backoff with lastErrorAt := some s.now }

/-! ## `viewer_event_loop` and `teardown_session` -/

/-- `JoinHandle::abort`: it takes effect at an await, so a timer inside its section completes, and one
that is due may still get there. -/
def abortTimer (t : Nat) : List TimerPc :=
  s.timers.modify t fun pc =>
    match pc with
    | .sleeping deadline => if deadline ≤ s.now then .late else .aborted
    | pc => pc

def onAttached (rest : List ViewerEvent) : Sys :=
  { s with
    viewerEvents := rest
    timers := (s.idleTimer.map s.abortTimer).getD s.timers
    idleTimer := none }

/-- A viewer left and others remain. -/
def onDetached (rest : List ViewerEvent) : Sys :=
  { s with viewerEvents := rest, viewerCount := s.viewerCount - 1 }

/-- The last viewer left: the idle timer starts. The handle of an older timer is overwritten. -/
def onLastDetached (rest : List ViewerEvent) : Sys :=
  { s.onDetached rest with
    timers := s.timers ++ [.sleeping (s.now + s.idleTimeout)]
    idleTimer := some s.timers.length }

/-- The second half of `teardown_session`: the slots are emptied. -/
def teardown (t : Nat) : Sys :=
  { s.dropStored.moveTimer t .done with
    stop := none
    rtpTx := none
    state := .idle
    stateWatch := s.stateWatch.send .idle
    h264 := none }

def timerStep (t : Nat) (pc : TimerPc) : Option Sys :=
  match pc with
  | .sleeping _ | .late =>
    if pc.due s.now && s.lockFree then
      -- the viewer count is read here, the slots are rewritten in the next step
      some (s.moveTimer t (if s.viewerCount > 0 then .done else .tearing))
    else none
  | .tearing =>
    if s.state = .streaming ∨ s.state = .connecting then some (s.teardown t)
    else some (s.moveTimer t .done)
  | .done | .aborted => none

/-! ## Viewers and sessions -/

/-- The broadcast channel of a subscription. -/
def channelOf (sub : Subscription) : Broadcast RtpPacket :=
  (s.channels[sub.rtp]?).getD (.channel 256)

/-- What `recv()` on the receiver of a subscription gives now. -/
def recv (sub : Subscription) : Option (Recv RtpPacket × Nat) := (s.channelOf sub).recv sub.next

/-- PLAY resubscribes at the tail. -/
def play (i : Nat) (sub : Subscription) : Sys :=
  s.moveCall i (.live { sub with next := (s.channelOf sub).tail })

/-- The outbound sender of attempt `j` is registered; its driver and forwarder are spawned. -/
def register (j : Nat) : Sys :=
  { s with
    sessions := s.sessions.modify j fun x => { x with phase := .registered }
    liveOutbound := some j }

def setEnded (j : Nat) (e : EndSignal) : Sys :=
  { s with sessions := s.sessions.modify j fun x => { x with ended := e } }

/-- The forwarder of a session sends a packet into its channel. -/
def sendRtp (tx : Nat) (pkt : RtpPacket) : Sys :=
  { s with channels := s.channels.modify tx (·.send pkt) }

/-! ## `snapshot()` -/

/-- The operational counters. -/
structure Snapshot where
  state : State
  viewers : Nat
  wssReconnectsTotal : Nat
  sessionUptimeSecs : Option Nat
  lastErrorAgeSecs : Option Nat
  reconnectTokens : Nat
  reconnectTokensCap : Nat
  deriving DecidableEq, Repr

/-- Reading the counters refills the bucket. -/
def snapshot : Snapshot × Sys :=
  let (tokens, budget) := s.reconnectBudget.tokensAt s.now
  ({ state := s.state
     viewers := (max s.viewerCount 0).toNat
     wssReconnectsTotal := s.wssReconnectsTotal
     sessionUptimeSecs := s.sessionStartedAt.map fun t => (s.now - t) / nanosPerSec
     lastErrorAgeSecs := s.lastErrorAt.map fun t => (s.now - t) / nanosPerSec
     reconnectTokens := tokens
     reconnectTokensCap := budget.capacity },
   { s with reconnectBudget := budget })

end Sys

/-- The steps of the system. The first argument of each is the index of the task or session. -/
inductive Action where
  /-- A viewer calls `subscribe()`. -/
  | subscribe
  | call (i : Nat)
  | startConnect (i : Nat) (params : H264Params)
  | callConnect (i : Nat) (r : Sys.ConnectResult)
  | cancel (i : Nat)
  | dropSubscription (i : Nat)
  | play (i : Nat)
  | forward (i : Nat)
  | watchdog (w : Nat)
  | watchdogSleep (w : Nat) (millis : Nat)
  | watchdogConnect (w : Nat) (params : H264Params)
  | watchdogResult (w : Nat) (r : Sys.ConnectResult)
  | viewerEvent
  | timer (t : Nat)
  /-- The abort of a timer that was due takes effect. -/
  | timerStops (t : Nat)
  | register (j : Nat)
  | sessionEnds (j : Nat)
  | sessionKilled (j : Nat)
  | rtp (j : Nat) (pkt : RtpPacket)
  | clear (k : Nat)
  | stateChanges
  | dropStateChanges
  | snapshot
  | authFailed
  | tick (d : Nat)
  deriving DecidableEq, Repr

namespace Sys

def step (s : Sys) : Action → Option Sys
  | .subscribe => some s.subscribe
  | .call i => s.calls[i]?.bind (s.callStep i)
  | .startConnect i params =>
    if s.calls[i]? = some .startConnect then some (s.startConnect i params) else none
  | .callConnect i r =>
    match s.calls[i]? with
    | some (.connect tx j) => s.callConnectStep i tx j r
    | _ => none
  | .cancel i => s.calls[i]?.bind (s.cancelStep i)
  | .dropSubscription i =>
    match s.calls[i]? with
    | some (.live _) => some (s.sendDetached i .dropped)
    | _ => none
  | .play i =>
    match s.calls[i]? with
    | some (.live sub) => some (s.play i sub)
    | _ => none
  | .forward i =>
    match s.calls[i]? with
    | some (.live sub) =>
      (s.recv sub).map fun r => s.moveCall i (.live { sub with next := r.2 })
    | _ => none
  | .watchdog w => s.watchdogs[w]?.bind (s.watchdogStep w)
  | .watchdogSleep w millis =>
    match s.watchdogs[w]? with
    | some d =>
      if d.pc = .backoff ∧ d.backoff.mayDelay millis = true then some (s.watchdogSleep w d millis)
      else none
    | none => none
  | .watchdogConnect w params =>
    match s.watchdogs[w]? with
    | some d =>
      if d.pc = .checkFailed ∧ s.failedRx ≠ some true then some (s.watchdogConnect w d params)
      else none
    | none => none
  | .watchdogResult w r =>
    match s.watchdogs[w]? with
    | some d =>
      match d.pc with
      | .connecting j => s.watchdogConnectStep w d j r
      | _ => none
    | none => none
  | .viewerEvent =>
    match s.viewerEvents with
    | [] => none
    | .attached :: rest => some (s.onAttached rest)
    | .detached :: rest =>
      if s.viewerCount - 1 ≤ 0 then some (s.onLastDetached rest) else some (s.onDetached rest)
  | .timer t => s.timers[t]?.bind (s.timerStep t)
  | .timerStops t => if s.timers[t]? = some .late then some (s.moveTimer t .aborted) else none
  | .register j =>
    if s.sessions[j]?.any (·.phase == .starting) then some (s.register j) else none
  | .sessionEnds j =>
    if s.sessions[j]?.any fun x => x.phase != .starting && x.ended == .pending then
      some (s.setEnded j .fired)
    else none
  | .sessionKilled j =>
    if s.sessions[j]?.any fun x => x.stopped && x.ended == .pending then
      some (s.setEnded j .closed)
    else none
  | .rtp j pkt =>
    match s.sessions[j]? with
    | some x =>
      -- the camera sends the payload type that was negotiated, seven bits on the wire
      if x.phase ≠ .starting ∧ pkt.header.payloadType = x.params.payloadType ∧
          pkt.header.payloadType < 128 then
        some (s.sendRtp x.tx pkt)
      else none
    | none => none
  | .clear k =>
    if k < s.clears.length then
      some { s with liveOutbound := none, clears := s.clears.eraseIdx k }
    else none
  | .stateChanges =>
    some { s with stateReceivers := s.stateReceivers + 1, stateWatch := s.stateWatch.subscribe }
  | .dropStateChanges =>
    if 0 < s.stateReceivers then
      some { s with
        stateReceivers := s.stateReceivers - 1
        stateWatch := s.stateWatch.dropReceiver }
    else none
  | .snapshot => if s.lockFree then some s.snapshot.2 else none
  | .authFailed => some { s with failedRx := s.failedRx.map fun _ => true }
  | .tick d => some { s with now := s.now + d }

end Sys

/-- The system of a supervisor created at the instant `0`. -/
def system (idleTimeout : Nat) (failedRx : Option Bool) : Transition.System Sys Action where
  init := .new idleTimeout failedRx 0
  step := Sys.step

end Buddy3dProxy.Supervisor
