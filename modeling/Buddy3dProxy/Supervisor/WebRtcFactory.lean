import Buddy3dProxy.Rtsp.Fmtp
import Buddy3dProxy.Supervisor.Model
import Buddy3dProxy.WebRtc.Driver

/-!
# One connect attempt

`connect` and `wait_for_ready` of `supervisor/webrtc_factory.rs` with what an attempt spawns: the
driver of the session, the forwarder of its packets and the callbacks of its peer connection. The
replies of the servers, the state of the peer connection and the text of an offer come from outside.
-/

namespace Buddy3dProxy.Supervisor.WebRtcFactory

open Rtsp Transition

/-- `RTCPeerConnectionState`. -/
inductive PeerState where
  | new
  | connecting
  | connected
  | disconnected
  | failed
  | closed
  deriving DecidableEq, Repr

/-- The states in which the state callback fires `pc_terminated_tx`. -/
def PeerState.terminal : PeerState → Bool
  | failed | closed => true
  | _ => false

def pcCloseTimeout : Nat := 10 * nanosPerSec

/-- How long `wait_for_ready` waits. -/
def readyTimeout : Nat := 15 * nanosPerSec

/-- How long it sleeps between two looks at the peer connection. -/
def readyInterval : Nat := 100 * nanosPerMilli

/-- The points of the future `ready` in `wait_for_ready`. -/
inductive ReadyPc where
  /-- In `remote_description()`. -/
  | remote
  /-- About to look at the connection state, with the description that was read. -/
  | state (remote : Option String)
  | sleeping (wake : Nat)
  deriving DecidableEq, Repr

/-- The points of `connect`. -/
inductive ConnectPc where
  | accessToken
  | webrtcConfig
  | signaling
  | newSession
  /-- Waits for the lock of the outbound registry. -/
  | lockOutbound
  /-- In the `select!` of `wait_for_ready`, until it is polled. -/
  | waiting (ready : ReadyPc) (deadline : Nat)
  /-- Being polled, with `ended` found pending. -/
  | polling (ready : ReadyPc) (deadline : Nat)
  | ok (params : H264Params)
  | err (e : SourceError)
  /-- The future was dropped. -/
  | dropped
  deriving DecidableEq, Repr

/-- The task that drives the session. -/
inductive DriverTask where
  | absent
  | selecting
  /-- In `timeout(PC_CLOSE_TIMEOUT, close())`. -/
  | closing (endedOnItsOwn : Bool) (deadline : Nat)
  | done
  deriving DecidableEq, Repr

/-- The task that forwards the packets. -/
inductive Forwarder where
  | absent
  | running
  /-- Told to stop, which it does at its next await. -/
  | aborting
  | finished
  | aborted
  deriving DecidableEq, Repr

namespace Forwarder

/-- Its future, and with it the receiver of the packets, is still there. -/
def alive : Forwarder → Bool
  | running | aborting => true
  | _ => false

/-- `JoinHandle::abort`. -/
def abort : Forwarder → Forwarder
  | running => aborting
  | f => f

theorem alive_eq_false {f : Forwarder} (h : f ≠ running) (h' : f ≠ aborting) : f.alive = false := by
  cases f with
  | running => exact absurd rfl h
  | aborting => exact absurd rfl h'
  | _ => rfl

theorem abort_ne_running (f : Forwarder) : f.abort ≠ .running := by cases f <;> exact noConfusion

end Forwarder

/-- The value whose drop stops the session: in `connect`, and then in the stop handle. -/
inductive Joiner where
  | absent
  | held
  | dropped
  deriving DecidableEq, Repr

structure Attempt where
  connect : ConnectPc
  peer : Option PeerState
  remoteDescription : Option String
  /-- The peer connection has been failed or closed. -/
  terminal : Bool
  /-- `pc_terminated_tx` has fired. -/
  pcTerminated : Bool
  /-- `run_session`. -/
  session : WebRtc.Driver
  driver : DriverTask
  joiner : Joiner
  ended : EndSignal
  forwarder : Forwarder
  rtpInternal : Tokio.Mpsc 1024 RtpPacket
  /-- The packets the track has sent. -/
  tracked : List RtpPacket
  /-- The packets sent into the broadcast channel. -/
  forwarded : List RtpPacket
  now : Nat
  deriving DecidableEq, Repr

inductive Action where
  /-- The reply to one of the first requests; `none` if it is `Ok`. -/
  | reply (error : Option String)
  | locked
  | poll
  /-- `ready` goes on. -/
  | advance
  /-- `ready` is pending. -/
  | suspend
  | cancel
  | dropHandle
  /-- `run_session` goes on. -/
  | session (a : WebRtc.Action)
  | remoteSet (sdp : String)
  /-- `run_session` has returned. -/
  | sessionOver
  | terminated
  | kill
  | closed (ok : Bool)
  | closeTimedOut
  | peerState (state : PeerState)
  | stateCallback
  | track (pkt : RtpPacket)
  | forward
  | forwardEnds
  /-- The aborted forwarder is at an await. -/
  | forwarderStops
  | tick (d : Nat)
  deriving DecidableEq, Repr

namespace Attempt

def new : Attempt where
  connect := .accessToken
  peer := none
  remoteDescription := none
  terminal := false
  pcTerminated := false
  session := .new
  driver := .absent
  joiner := .absent
  ended := .pending
  forwarder := .absent
  rtpInternal := .channel
  tracked := []
  forwarded := []
  now := 0

variable (c : Attempt)

/-- `Joiner::drop`. The clear of the outbound registry is a step of the supervisor. -/
def dropJoiner : Attempt :=
  if c.joiner = .held then { c with joiner := .dropped, forwarder := c.forwarder.abort } else c

def returnErr (e : SourceError) : Attempt := { c.dropJoiner with connect := .err e }

/-- The sender is registered, the tasks are spawned, and the wait begins. -/
def register : Attempt :=
  { c with
    connect := .waiting .remote (c.now + readyTimeout)
    driver := .selecting
    forwarder := .running
    joiner := .held }

/-- `connect` with the outcome of its first requests. -/
def replied (error : Option String) : Option Attempt :=
  match c.connect with
  | .accessToken =>
    match error with
    | none => some { c with connect := .webrtcConfig }
    | some e => some (c.returnErr (.unavailable ("auth: " ++ e)))
  | .webrtcConfig =>
    match error with
    | none => some { c with connect := .signaling }
    | some e => some (c.returnErr (.unavailable ("webrtc-config: " ++ e)))
  | .signaling =>
    match error with
    | none => some { c with connect := .newSession }
    | some e => some (c.returnErr (.unavailable ("signaling: " ++ e)))
  | .newSession =>
    match error with
    | none => some { c with connect := .lockOutbound, peer := some .new }
    | some e => some (c.returnErr (.unavailable ("session: " ++ e)))
  | _ => none

/-- `wait_for_ready` is polled, and looks at `ended` first. -/
def poll (ready : ReadyPc) (deadline : Nat) : Attempt :=
  if c.ended = .pending then { c with connect := .polling ready deadline }
  else c.returnErr (.unavailable "session ended before WebRTC was ready")

/-- What `ready` makes of the connection state. -/
def lookAtState (remote : Option String) (deadline : Nat) : Attempt :=
  match c.peer with
  | some .failed | some .closed =>
    c.returnErr (.unavailable "peer connection failed before WebRTC was ready")
  | some .connected =>
    match remote.bind extractH264Params with
    | some params => { c with connect := .ok params }
    | none => { c with connect := .polling (.sleeping (c.now + readyInterval)) deadline }
  | _ => { c with connect := .polling (.sleeping (c.now + readyInterval)) deadline }

/-- `ready` is pending, and the timeout is looked at. -/
def suspend (ready : ReadyPc) (deadline : Nat) : Attempt :=
  if deadline ≤ c.now then
    c.returnErr (.unavailable "WebRTC did not connect with H.264 within 15s")
  else { c with connect := .waiting ready deadline }

/-- The driver leaves its `select!`, and the future of `run_session` is dropped. -/
def leaveSelect (endedOnItsOwn : Bool) : Attempt :=
  { c with
    driver := .closing endedOnItsOwn (c.now + pcCloseTimeout)
    session := { c.session with pc := .stopped } }

/-- The driver ends: `ended_tx` is sent, or dropped. -/
def endDriver (endedOnItsOwn : Bool) : Attempt :=
  { c with driver := .done, ended := if endedOnItsOwn then .fired else .closed }

def step (c : Attempt) : Action → Option Attempt
  | .reply error => c.replied error
  | .locked => if c.connect = .lockOutbound then some c.register else none
  | .poll =>
    match c.connect with
    | .waiting ready deadline => some (c.poll ready deadline)
    | _ => none
  | .advance =>
    match c.connect with
    | .polling .remote deadline =>
      some { c with connect := .polling (.state c.remoteDescription) deadline }
    | .polling (.state remote) deadline => some (c.lookAtState remote deadline)
    | .polling (.sleeping wake) deadline =>
      if wake ≤ c.now then some { c with connect := .polling .remote deadline } else none
    | _ => none
  | .suspend =>
    match c.connect with
    | .polling .remote deadline => some (c.suspend .remote deadline)
    | .polling (.sleeping wake) deadline =>
      if wake ≤ c.now then none else some (c.suspend (.sleeping wake) deadline)
    | _ => none
  | .cancel =>
    match c.connect with
    | .polling _ _ | .ok _ | .err _ | .dropped => none
    | _ => some { c.dropJoiner with connect := .dropped }
  | .dropHandle =>
    match c.connect with
    | .ok _ => if c.joiner = .held then some c.dropJoiner else none
    | _ => none
  | .session a =>
    if c.driver = .selecting ∧ a ≠ .dropped ∧ a ≠ .remoteSet then
      (c.session.step a).map fun session => { c with session := session }
    else none
  | .remoteSet sdp =>
    if c.driver = .selecting then
      (c.session.step .remoteSet).map fun session =>
        { c with session := session, remoteDescription := some sdp }
    else none
  | .sessionOver =>
    if c.driver = .selecting ∧ c.session.pc = .stopped then some (c.leaveSelect true) else none
  | .terminated =>
    if c.driver = .selecting ∧ c.pcTerminated = true then some (c.leaveSelect true) else none
  | .kill =>
    if c.driver = .selecting ∧ c.joiner = .dropped then some (c.leaveSelect false) else none
  | .closed ok =>
    match c.driver with
    | .closing endedOnItsOwn _ =>
      if ok then some { c.endDriver endedOnItsOwn with peer := some .closed, terminal := true }
      else some (c.endDriver endedOnItsOwn)
    | _ => none
  | .closeTimedOut =>
    match c.driver with
    | .closing endedOnItsOwn deadline =>
      if deadline ≤ c.now then some (c.endDriver endedOnItsOwn) else none
    | _ => none
  | .peerState state =>
    match c.peer with
    | none | some .closed => none
    | some _ => some { c with peer := some state, terminal := c.terminal || state.terminal }
  | .stateCallback => if c.terminal = true then some { c with pcTerminated := true } else none
  | .track pkt =>
    if c.forwarder.alive = true ∧ c.remoteDescription.isSome = true then
      some { c with rtpInternal := c.rtpInternal.send pkt, tracked := c.tracked ++ [pkt] }
    else none
  | .forward =>
    if c.forwarder.alive = true then
      c.rtpInternal.recv.map fun r =>
        { c with rtpInternal := r.2, forwarded := c.forwarded ++ [r.1] }
    else none
  | .forwardEnds =>
    -- the senders are gone with the peer connection
    if c.forwarder.alive = true ∧ c.driver = .done ∧ c.rtpInternal.queue = [] then
      some { c with forwarder := .finished }
    else none
  | .forwarderStops =>
    if c.forwarder = .aborting then some { c with forwarder := .aborted } else none
  | .tick d => some { c with now := c.now + d }

end Attempt

/-- The runs of an attempt. -/
def attemptSystem : Transition.System Attempt Action := ⟨.new, Attempt.step⟩

/-! ## What one step can do -/

/-- Before the tasks of the attempt are spawned. -/
def ConnectPc.early : ConnectPc → Bool
  | accessToken | webrtcConfig | signaling | newSession | lockOutbound => true
  | _ => false

/-- In `wait_for_ready`. -/
def ConnectPc.inWait : ConnectPc → Bool
  | waiting _ _ | polling _ _ => true
  | _ => false

/-- Without a stop handle for the caller. -/
def ConnectPc.over : ConnectPc → Bool
  | err _ | dropped => true
  | _ => false

inductive Step (c : Attempt) : Action → Attempt → Prop where
  | repliedOk {pc : ConnectPc} {peer : Option PeerState} (h : c.connect.early = true)
      (hpc : pc.early = true) : Step c (.reply none) { c with connect := pc, peer := peer }
  | repliedErr {e : String} {reason : SourceError} (h : c.connect.early = true) :
      Step c (.reply (some e)) (c.returnErr reason)
  | locked (h : c.connect = .lockOutbound) : Step c .locked c.register
  | pollPending {ready : ReadyPc} {deadline : Nat} (h : c.connect = .waiting ready deadline)
      (he : c.ended = .pending) : Step c .poll { c with connect := .polling ready deadline }
  | pollEnded {ready : ReadyPc} {deadline : Nat} (h : c.connect = .waiting ready deadline)
      (he : c.ended ≠ .pending) :
      Step c .poll (c.returnErr (.unavailable "session ended before WebRTC was ready"))
  | readRemote {deadline : Nat} (h : c.connect = .polling .remote deadline) :
      Step c .advance { c with connect := .polling (.state c.remoteDescription) deadline }
  | peerOver {remote : Option String} {deadline : Nat}
      (h : c.connect = .polling (.state remote) deadline)
      (hp : ∃ state, c.peer = some state ∧ state.terminal = true) :
      Step c .advance
        (c.returnErr (.unavailable "peer connection failed before WebRTC was ready"))
  | ready {remote : Option String} {deadline : Nat} {params : H264Params}
      (h : c.connect = .polling (.state remote) deadline) (hp : c.peer = some .connected)
      (hparams : remote.bind extractH264Params = some params) :
      Step c .advance { c with connect := .ok params }
  | notReady {remote : Option String} {deadline : Nat}
      (h : c.connect = .polling (.state remote) deadline) :
      Step c .advance { c with connect := .polling (.sleeping (c.now + readyInterval)) deadline }
  | woke {wake deadline : Nat} (h : c.connect = .polling (.sleeping wake) deadline)
      (hwake : wake ≤ c.now) : Step c .advance { c with connect := .polling .remote deadline }
  | suspended {ready : ReadyPc} {deadline : Nat} (h : c.connect = .polling ready deadline)
      (hd : c.now < deadline) : Step c .suspend { c with connect := .waiting ready deadline }
  | timedOut {ready : ReadyPc} {deadline : Nat} (h : c.connect = .polling ready deadline)
      (hd : deadline ≤ c.now) :
      Step c .suspend (c.returnErr (.unavailable "WebRTC did not connect with H.264 within 15s"))
  | cancel (h : c.connect.early = true ∨ ∃ ready deadline, c.connect = .waiting ready deadline) :
      Step c .cancel { c.dropJoiner with connect := .dropped }
  | dropHandle {params : H264Params} (h : c.connect = .ok params) (hj : c.joiner = .held) :
      Step c .dropHandle c.dropJoiner
  | session {a : WebRtc.Action} {session : WebRtc.Driver} (hd : c.driver = .selecting)
      (hs : c.session.step a = some session) :
      Step c (.session a) { c with session := session }
  | remoteSet {sdp : String} {session : WebRtc.Driver} (hd : c.driver = .selecting)
      (hs : c.session.step .remoteSet = some session) :
      Step c (.remoteSet sdp) { c with session := session, remoteDescription := some sdp }
  | sessionOver (hd : c.driver = .selecting) (hs : c.session.pc = .stopped) :
      Step c .sessionOver (c.leaveSelect true)
  | terminated (hd : c.driver = .selecting) (ht : c.pcTerminated = true) :
      Step c .terminated (c.leaveSelect true)
  | kill (hd : c.driver = .selecting) (hj : c.joiner = .dropped) :
      Step c .kill (c.leaveSelect false)
  | closed {endedOnItsOwn : Bool} {deadline : Nat} (hd : c.driver = .closing endedOnItsOwn deadline) :
      Step c (.closed true)
        { c.endDriver endedOnItsOwn with peer := some .closed, terminal := true }
  | closeFailed {endedOnItsOwn : Bool} {deadline : Nat}
      (hd : c.driver = .closing endedOnItsOwn deadline) :
      Step c (.closed false) (c.endDriver endedOnItsOwn)
  | closeTimedOut {endedOnItsOwn : Bool} {deadline : Nat}
      (hd : c.driver = .closing endedOnItsOwn deadline) (ht : deadline ≤ c.now) :
      Step c .closeTimedOut (c.endDriver endedOnItsOwn)
  | peerState {state : PeerState} (hp : c.peer.isSome = true) (hc : c.peer ≠ some .closed) :
      Step c (.peerState state)
        { c with peer := some state, terminal := c.terminal || state.terminal }
  | stateCallback (ht : c.terminal = true) : Step c .stateCallback { c with pcTerminated := true }
  | track {pkt : RtpPacket} (hf : c.forwarder.alive = true) :
      Step c (.track pkt)
        { c with rtpInternal := c.rtpInternal.send pkt, tracked := c.tracked ++ [pkt] }
  | forward {pkt : RtpPacket} {rest : Tokio.Mpsc 1024 RtpPacket} (hf : c.forwarder.alive = true)
      (hr : c.rtpInternal.recv = some (pkt, rest)) :
      Step c .forward { c with rtpInternal := rest, forwarded := c.forwarded ++ [pkt] }
  | forwardEnds (hf : c.forwarder.alive = true) (hd : c.driver = .done)
      (hq : c.rtpInternal.queue = []) : Step c .forwardEnds { c with forwarder := .finished }
  | forwarderStops (hf : c.forwarder = .aborting) :
      Step c .forwarderStops { c with forwarder := .aborted }
  | tick {d : Nat} : Step c (.tick d) { c with now := c.now + d }

variable {c c' : Attempt}

theorem step_of_replied {error : Option String} (hs : c.replied error = some c') :
    Step c (.reply error) c' := by
  have hearly (pc : ConnectPc) (hpc : c.connect = pc) (h : pc.early = true) :
      c.connect.early = true := by rw [hpc]; exact h
  unfold Attempt.replied at hs
  split at hs
  case h_5 => cases hs
  all_goals
    rename_i hpc
    split at hs <;> cases hs
    · exact .repliedOk (hearly _ hpc rfl) rfl
    · exact .repliedErr (hearly _ hpc rfl)

theorem step_of_lookAtState {remote : Option String} {deadline : Nat}
    (h : c.connect = .polling (.state remote) deadline) :
    Step c .advance (c.lookAtState remote deadline) := by
  unfold Attempt.lookAtState
  split
  · exact .peerOver h ⟨_, ‹_›, rfl⟩
  · exact .peerOver h ⟨_, ‹_›, rfl⟩
  · split
    · exact .ready h ‹_› ‹_›
    · exact .notReady h
  · exact .notReady h

theorem step_of_suspend {ready : ReadyPc} {deadline : Nat} (h : c.connect = .polling ready deadline) :
    Step c .suspend (c.suspend ready deadline) := by
  unfold Attempt.suspend
  split
  · exact .timedOut h ‹_›
  · exact .suspended h (Nat.lt_of_not_le ‹_›)

theorem step_of_eq {a : Action} (h : c.step a = some c') : Step c a c' := by
  cases a with
  | reply error => exact step_of_replied h
  | locked =>
    simp only [Attempt.step, Option.ite_none_right_eq_some, Option.some.injEq] at h
    obtain ⟨hpc, rfl⟩ := h
    exact .locked hpc
  | poll =>
    simp only [Attempt.step] at h
    split at h <;> cases h
    rename_i hpc
    unfold Attempt.poll
    split
    · exact .pollPending hpc ‹_›
    · exact .pollEnded hpc ‹_›
  | advance =>
    simp only [Attempt.step] at h
    split at h
    · cases h
      exact .readRemote ‹_›
    · cases h
      exact step_of_lookAtState ‹_›
    · obtain ⟨hwake, rfl⟩ := by simpa using h
      exact .woke ‹_› hwake
    · cases h
  | suspend =>
    simp only [Attempt.step] at h
    split at h
    · cases h
      exact step_of_suspend ‹_›
    · split at h <;> cases h
      exact step_of_suspend ‹_›
    · cases h
  | cancel =>
    simp only [Attempt.step] at h
    split at h <;> cases h
    refine .cancel ?_
    cases hpc : c.connect with
    | waiting ready deadline => exact .inr ⟨ready, deadline, rfl⟩
    | accessToken | webrtcConfig | signaling | newSession | lockOutbound => exact .inl rfl
    | _ => simp_all
  | dropHandle =>
    simp only [Attempt.step] at h
    split at h
    · obtain ⟨hj, rfl⟩ := by simpa using h
      exact .dropHandle ‹_› hj
    · cases h
  | session a =>
    simp only [Attempt.step, Option.ite_none_right_eq_some, Option.map_eq_some_iff] at h
    obtain ⟨⟨hd, -⟩, d, hs, rfl⟩ := h
    exact .session hd hs
  | remoteSet sdp =>
    simp only [Attempt.step, Option.ite_none_right_eq_some, Option.map_eq_some_iff] at h
    obtain ⟨hd, d, hs, rfl⟩ := h
    exact .remoteSet hd hs
  | sessionOver =>
    simp only [Attempt.step, Option.ite_none_right_eq_some, Option.some.injEq] at h
    obtain ⟨⟨hd, hs⟩, rfl⟩ := h
    exact .sessionOver hd hs
  | terminated =>
    simp only [Attempt.step, Option.ite_none_right_eq_some, Option.some.injEq] at h
    obtain ⟨⟨hd, ht⟩, rfl⟩ := h
    exact .terminated hd ht
  | kill =>
    simp only [Attempt.step, Option.ite_none_right_eq_some, Option.some.injEq] at h
    obtain ⟨⟨hd, hj⟩, rfl⟩ := h
    exact .kill hd hj
  | closed ok =>
    simp only [Attempt.step] at h
    split at h
    · cases ok <;> cases h
      · exact .closeFailed ‹_›
      · exact .closed ‹_›
    · cases h
  | closeTimedOut =>
    simp only [Attempt.step] at h
    split at h
    · obtain ⟨ht, rfl⟩ := by simpa using h
      exact .closeTimedOut ‹_› ht
    · cases h
  | peerState state =>
    simp only [Attempt.step] at h
    split at h <;> cases h
    rename_i hne hp
    refine .peerState (by simp [hp]) fun hclosed => hne ?_
    exact Option.some.inj (hp.symm.trans hclosed)
  | stateCallback =>
    simp only [Attempt.step, Option.ite_none_right_eq_some, Option.some.injEq] at h
    obtain ⟨ht, rfl⟩ := h
    exact .stateCallback ht
  | track pkt =>
    simp only [Attempt.step, Option.ite_none_right_eq_some, Option.some.injEq] at h
    obtain ⟨⟨hf, -⟩, rfl⟩ := h
    exact .track hf
  | forward =>
    simp only [Attempt.step, Option.ite_none_right_eq_some, Option.map_eq_some_iff] at h
    obtain ⟨hf, ⟨pkt, rest⟩, hr, rfl⟩ := h
    exact .forward hf hr
  | forwardEnds =>
    simp only [Attempt.step, Option.ite_none_right_eq_some, Option.some.injEq] at h
    obtain ⟨⟨hf, hd, hq⟩, rfl⟩ := h
    exact .forwardEnds hf hd hq
  | forwarderStops =>
    simp only [Attempt.step, Option.ite_none_right_eq_some, Option.some.injEq] at h
    obtain ⟨hf, rfl⟩ := h
    exact .forwarderStops hf
  | tick d =>
    cases h
    exact .tick

end Buddy3dProxy.Supervisor.WebRtcFactory
