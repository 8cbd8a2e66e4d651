import Buddy3dProxy.Supervisor.Lifecycle
import Buddy3dProxy.Supervisor.WebRtcFactory

/-!
# An attempt leads the life of a session

What the supervisor sees of an attempt (`Attempt.abs`) is a session, and each step of the attempt is a
path in the life of that session. So the sessions of the supervisor's model stand for what the factory
brings up.
-/

namespace Buddy3dProxy.Supervisor.WebRtcFactory

open Rtsp Transition

/-! ## The tasks of an attempt -/

/-- Where the joiner is at each point of `connect`. -/
def ConnectPc.JoinerOk (joiner : Joiner) : ConnectPc → Prop
  | accessToken | webrtcConfig | signaling | newSession | lockOutbound => joiner = .absent
  | waiting _ _ | polling _ _ => joiner = .held
  | ok _ => joiner ≠ .absent
  | err _ | dropped => joiner ≠ .held

/-- The tasks agree with the joiner and with each other. -/
structure TasksInv (joiner : Joiner) (driver : DriverTask) (signal : EndSignal)
    (session : WebRtc.DriverPc) (forwarder : Forwarder) : Prop where
  absent : joiner = .absent ↔ driver = .absent
  ended : signal ≠ .pending ↔ driver = .done
  killed : (∃ deadline, driver = .closing false deadline) ∨ signal = .closed → joiner = .dropped
  session : driver = .done ∨ (∃ own deadline, driver = .closing own deadline) → session = .stopped
  forwarder : forwarder = .running → joiner = .held

namespace TasksInv

variable {j : Joiner} {d : DriverTask} {e : EndSignal} {pc pc' : WebRtc.DriverPc} {f : Forwarder}
  {own : Bool} {deadline : Nat}

theorem dropJoiner (h : TasksInv .held d e pc f) :
    TasksInv .dropped d e pc f.abort where
  absent := iff_of_false Joiner.noConfusion fun hd => by cases h.absent.mpr hd
  ended := h.ended
  killed _ := rfl
  session := h.session
  forwarder hf := absurd hf f.abort_ne_running

theorem leaveSelect (h : TasksInv j .selecting e pc f) (hown : own = false → j = .dropped) :
    TasksInv j (.closing own deadline) e .stopped f where
  absent := iff_of_false (fun hj => by cases h.absent.mp hj) DriverTask.noConfusion
  ended := iff_of_false (fun he => by cases h.ended.mp he) DriverTask.noConfusion
  killed hk := by
    rcases hk with ⟨_, hk⟩ | hk
    · exact hown (DriverTask.closing.inj hk).1
    · exact h.killed (.inr hk)
  session _ := rfl
  forwarder := h.forwarder

theorem endDriver (h : TasksInv j (.closing own deadline) e pc f) :
    TasksInv j .done (if own then .fired else .closed) pc f where
  absent := iff_of_false (fun hj => by cases h.absent.mp hj) DriverTask.noConfusion
  ended := iff_of_true (by cases own <;> exact EndSignal.noConfusion) rfl
  killed hk := by
    rcases hk with ⟨_, hk⟩ | hk
    · cases hk
    · cases own with
      | true => cases hk
      | false => exact h.killed (.inl ⟨deadline, rfl⟩)
  session _ := h.session (.inr ⟨own, deadline, rfl⟩)
  forwarder := h.forwarder

/-- `run_session` goes on. -/
theorem run (h : TasksInv j .selecting e pc f) : TasksInv j .selecting e pc' f where
  absent := h.absent
  ended := h.ended
  killed := h.killed
  session hd := by rcases hd with hd | ⟨_, _, hd⟩ <;> cases hd
  forwarder := h.forwarder

theorem spawn (h : TasksInv .absent d e pc f) : TasksInv .held .selecting e pc .running where
  absent := iff_of_false Joiner.noConfusion DriverTask.noConfusion
  ended := iff_of_false (fun he => by cases h.absent.mp rfl; cases h.ended.mp he)
    DriverTask.noConfusion
  killed hk := by
    rcases hk with ⟨_, hk⟩ | hk
    · cases hk
    · cases h.killed (.inr hk)
  session hd := by rcases hd with hd | ⟨_, _, hd⟩ <;> cases hd
  forwarder _ := rfl

/-- Without the joiner no task has been spawned. -/
theorem pending (h : TasksInv .absent d e pc f) : e = .pending := by
  by_contra he
  have hdone := h.ended.mp he
  rw [h.absent.mp rfl] at hdone
  cases hdone

end TasksInv

structure Attempt.Inv (c : Attempt) : Prop where
  connect : c.connect.JoinerOk c.joiner
  tasks : TasksInv c.joiner c.driver c.ended c.session.pc c.forwarder

variable {c c' : Attempt} {a : Action}

theorem ConnectPc.joinerOk_of_early {pc : ConnectPc} {j : Joiner} (h : pc.early = true) :
    pc.JoinerOk j ↔ j = .absent := by
  cases pc with
  | accessToken | webrtcConfig | signaling | newSession | lockOutbound => exact Iff.rfl
  | _ => cases h

namespace Attempt

theorem dropJoiner_of_held (h : c.joiner = .held) :
    c.dropJoiner = { c with joiner := .dropped, forwarder := c.forwarder.abort } := if_pos h

theorem dropJoiner_of_ne (h : c.joiner ≠ .held) : c.dropJoiner = c := if_neg h

theorem Inv.dropJoiner (h : c.Inv) :
    c.dropJoiner.joiner ≠ .held ∧ TasksInv c.dropJoiner.joiner c.dropJoiner.driver
      c.dropJoiner.ended c.dropJoiner.session.pc c.dropJoiner.forwarder := by
  by_cases hj : c.joiner = .held
  · have htasks := h.tasks
    rw [hj] at htasks
    rw [dropJoiner_of_held hj]
    exact ⟨Joiner.noConfusion, htasks.dropJoiner⟩
  · rw [dropJoiner_of_ne hj]
    exact ⟨hj, h.tasks⟩

theorem Inv.returnErr (h : c.Inv) (e : SourceError) : (c.returnErr e).Inv :=
  ⟨h.dropJoiner.1, h.dropJoiner.2⟩

/-- The joiner at the point of `connect` that a step finds. -/
theorem Inv.at (h : c.Inv) {pc : ConnectPc} (hpc : c.connect = pc) : pc.JoinerOk c.joiner :=
  hpc ▸ h.connect

theorem Inv.step (h : c.Inv) (hs : Step c a c') : c'.Inv := by
  have htasks := h.tasks
  cases hs with
  | repliedOk hearly hpc =>
    refine ⟨(ConnectPc.joinerOk_of_early hpc).mpr ?_, htasks⟩
    exact (ConnectPc.joinerOk_of_early hearly).mp h.connect
  | repliedErr | pollEnded | peerOver | timedOut => exact h.returnErr _
  | locked hpc =>
    have hj : c.joiner = .absent := h.at hpc
    rw [hj] at htasks
    exact ⟨rfl, htasks.spawn⟩
  | pollPending hpc | readRemote hpc | notReady hpc | woke hpc | suspended hpc =>
    exact ⟨(h.at hpc :), htasks⟩
  | ready hpc =>
    have hj : c.joiner = .held := h.at hpc
    refine ⟨?_, htasks⟩
    show c.joiner ≠ .absent
    rw [hj]
    exact Joiner.noConfusion
  | cancel => exact ⟨h.dropJoiner.1, h.dropJoiner.2⟩
  | dropHandle hpc hj =>
    rw [hj] at htasks
    rw [dropJoiner_of_held hj]
    refine ⟨?_, htasks.dropJoiner⟩
    show ConnectPc.JoinerOk .dropped c.connect
    rw [hpc]
    exact Joiner.noConfusion
  | session hd | remoteSet hd =>
    rw [hd] at htasks
    refine ⟨h.connect, ?_⟩
    show TasksInv c.joiner c.driver c.ended _ c.forwarder
    rw [hd]
    exact htasks.run
  | sessionOver hd | terminated hd =>
    rw [hd] at htasks
    exact ⟨h.connect, htasks.leaveSelect fun hown => by cases hown⟩
  | kill hd hj =>
    rw [hd] at htasks
    exact ⟨h.connect, htasks.leaveSelect fun _ => hj⟩
  | closed hd | closeFailed hd | closeTimedOut hd =>
    rw [hd] at htasks
    exact ⟨h.connect, htasks.endDriver⟩
  | forwardEnds | forwarderStops =>
    exact ⟨h.connect, { htasks with forwarder := fun hf => by cases hf }⟩
  | peerState | stateCallback | track | forward | tick => exact ⟨h.connect, htasks⟩

theorem inv_of_reachable (h : Reachable attemptSystem c) : c.Inv := by
  refine h.induct ⟨rfl, ?_⟩ fun _ _ _ _ _ hs hinv => hinv.step (step_of_eq hs)
  refine ⟨iff_of_true rfl rfl, iff_of_false (fun he => he rfl) DriverTask.noConfusion, ?_, ?_, ?_⟩
  · rintro (⟨deadline, hk⟩ | hk) <;> exact absurd hk (by simp [attemptSystem, Attempt.new])
  · rintro (hd | ⟨own, deadline, hd⟩) <;> cases hd
  · exact fun hf => by cases hf

end Attempt

/-! ## What the supervisor sees -/

def ConnectPc.phase : ConnectPc → ConnectPhase
  | accessToken | webrtcConfig | signaling | newSession | lockOutbound => .starting
  | waiting _ _ | polling _ _ => .registered
  | ok _ => .ready
  | err _ => .failed
  | dropped => .cancelled

def ConnectPc.isPolling : ConnectPc → Bool
  | polling _ _ => true
  | _ => false

namespace Attempt

/-- The session that an attempt is. A signal that fires while `wait_for_ready` is being polled counts
from the end of that poll on, since `ended` was looked at before. -/
def abs (tx : Nat) (params : H264Params) (c : Attempt) : Session where
  tx := tx
  params := params
  phase := c.connect.phase
  ended := if c.connect.isPolling then .pending else c.ended
  stopped := c.connect.over || c.joiner == .dropped

end Attempt

variable {tx : Nat} {params : H264Params}

/-- The attempt takes steps in the life of its session. -/
def Leads (tx : Nat) (params : H264Params) (c c' : Attempt) : Prop :=
  ∃ acts, Path (lifecycle tx params) (c.abs tx params) acts (c'.abs tx params)

theorem leads_of_eq (h : c'.abs tx params = c.abs tx params) : Leads tx params c c' :=
  ⟨[], h ▸ .nil _⟩

theorem leads_of_step (act : SessionAction)
    (h : (c.abs tx params).step act = some (c'.abs tx params)) : Leads tx params c c' :=
  ⟨[act], .single h⟩

theorem Attempt.abs_over (c : Attempt) {pc : ConnectPc} (hpc : pc.over = true) :
    ({ c.dropJoiner with connect := pc }).abs tx params = ⟨tx, params, pc.phase, c.ended, true⟩ := by
  have hended : c.dropJoiner.ended = c.ended := by
    unfold dropJoiner
    split <;> rfl
  have hpolling : pc.isPolling = false := by
    cases pc with
    | polling => cases hpc
    | _ => rfl
  simp [abs, hpc, hpolling, hended]

theorem ConnectPc.phase_of_early {pc : ConnectPc} (h : pc.early = true) : pc.phase = .starting := by
  cases pc with
  | accessToken | webrtcConfig | signaling | newSession | lockOutbound => rfl
  | _ => cases h

/-- An attempt before its tasks are spawned. -/
theorem Attempt.Inv.abs_early (h : c.Inv) (hearly : c.connect.early = true) :
    c.abs tx params = Sys.startSession tx params := by
  have hj := (ConnectPc.joinerOk_of_early hearly).mp h.connect
  have htasks := h.tasks
  rw [hj] at htasks
  have hphase := ConnectPc.phase_of_early hearly
  have hover : c.connect.over = false ∧ c.connect.isPolling = false := by
    cases hpc : c.connect with
    | accessToken | webrtcConfig | signaling | newSession | lockOutbound => exact ⟨rfl, rfl⟩
    | _ => rw [hpc] at hearly; cases hearly
  simp [Attempt.abs, hphase, hover, hj, htasks.pending, Sys.startSession]

/-- An attempt in `wait_for_ready`. -/
theorem Attempt.Inv.abs_inWait (tx : Nat) (params : H264Params) (h : c.Inv)
    (hwait : c.connect.inWait = true) :
    c.abs tx params = ⟨tx, params, .registered,
      if c.connect.isPolling then .pending else c.ended, false⟩ ∧ c.joiner = .held := by
  have hj : c.joiner = .held := by
    have hconnect := h.connect
    cases hpc : c.connect with
    | waiting | polling =>
      rw [hpc] at hconnect
      exact hconnect
    | _ => rw [hpc] at hwait; cases hwait
  refine ⟨?_, hj⟩
  cases hpc : c.connect with
  | waiting | polling => simp [Attempt.abs, hpc, hj, ConnectPc.phase, ConnectPc.over]
  | _ => rw [hpc] at hwait; cases hwait

/-- The signal of an attempt with its handle is pending or has fired. -/
theorem Attempt.Inv.ended_of_held (h : c.Inv) (hj : c.joiner = .held) :
    c.ended = .pending ∨ c.ended = .fired := by
  cases he : c.ended with
  | pending => exact .inl rfl
  | fired => exact .inr rfl
  | closed =>
    have hdropped := h.tasks.killed (.inr he)
    rw [hj] at hdropped
    cases hdropped

/-- What is left of a poll: the signal, if it fired in the meantime. -/
theorem leads_fired (tx : Nat) (params : H264Params) (x : Session) (hp : x.phase ≠ .starting)
    (hx : x.ended = .pending) (he : c.ended = .pending ∨ c.ended = .fired) :
    ∃ acts, Path (lifecycle tx params) x acts { x with ended := c.ended } := by
  rcases he with he | he
  · rw [he, ← hx]
    exact ⟨[], .nil x⟩
  · refine ⟨[.ends], .single ?_⟩
    rw [he]
    exact if_pos ⟨hp, hx⟩

/-- `connect` ends without a handle, by an error or because its future is dropped. -/
theorem leads_over (act : SessionAction) (hinv : c.Inv) (hc : c.connect.early = true ∨ c.connect.inWait = true)
    {pc : ConnectPc} (hpc : pc.over = true)
    (hact : ∀ x : Session, x.phase.inFlight = true → x.stopped = false →
      x.step act = some { x with phase := pc.phase, stopped := true }) :
    Leads tx params c { c.dropJoiner with connect := pc } := by
  unfold Leads
  rw [c.abs_over hpc]
  rcases hc with hearly | hwait
  · have hj := (ConnectPc.joinerOk_of_early hearly).mp hinv.connect
    have htasks := hinv.tasks
    rw [hj] at htasks
    rw [hinv.abs_early hearly, htasks.pending]
    exact ⟨[act], .single (hact _ rfl rfl)⟩
  · obtain ⟨habs, hj⟩ := hinv.abs_inWait tx params hwait
    rw [habs]
    split
    · -- what has fired since `ended` was looked at comes after the outcome
      have hstarted : pc.phase ≠ .starting := by
        cases pc with
        | err | dropped => exact ConnectPhase.noConfusion
        | _ => cases hpc
      obtain ⟨acts, hacts⟩ := leads_fired tx params
        ⟨tx, params, pc.phase, .pending, true⟩ hstarted rfl
        (hinv.ended_of_held hj)
      exact ⟨act :: acts, (Path.single (hact _ rfl rfl)).append hacts⟩
    · exact ⟨[act], .single (hact _ rfl rfl)⟩

theorem leads_returnErr (hinv : c.Inv) (hc : c.connect.early = true ∨ c.connect.inWait = true)
    (e : SourceError) : Leads tx params c (c.returnErr e) :=
  leads_over .fail hinv hc rfl fun _ hin hst => step_fail ⟨hst, hin⟩

/-- A poll that leaves `wait_for_ready` where it is. -/
theorem leads_polling {ready ready' : ReadyPc} {deadline deadline' : Nat}
    (h : c.connect = .polling ready deadline) :
    Leads tx params c { c with connect := .polling ready' deadline' } :=
  leads_of_eq (by simp [Attempt.abs, h, ConnectPc.phase, ConnectPc.isPolling, ConnectPc.over])

theorem leads_endDriver (hinv : c.Inv) {own : Bool} {deadline : Nat}
    (hd : c.driver = .closing own deadline) : Leads tx params c (c.endDriver own) := by
  have hpending : c.ended = .pending := by
    by_contra he
    have hdone := hinv.tasks.ended.mp he
    rw [hd] at hdone
    cases hdone
  have hstarted : c.connect.phase ≠ .starting := by
    intro hphase
    have hearly : c.connect.early = true := by
      cases hpc : c.connect <;> rw [hpc] at hphase <;> first | rfl | cases hphase
    have habsent := hinv.tasks.absent.mp ((ConnectPc.joinerOk_of_early hearly).mp hinv.connect)
    rw [hd] at habsent
    cases habsent
  cases hpolling : c.connect.isPolling with
  | true => exact leads_of_eq (by simp [Attempt.abs, Attempt.endDriver, hpolling])
  | false =>
    cases own with
    | true =>
      refine leads_of_step .ends ?_
      simp [Attempt.abs, Attempt.endDriver, hpolling, Session.step, hpending, hstarted]
    | false =>
      have hj := hinv.tasks.killed (.inl ⟨deadline, hd⟩)
      refine leads_of_step .killed ?_
      simp [Attempt.abs, Attempt.endDriver, hpolling, Session.step, hpending, hj]

theorem leads_step (tx : Nat) (params : H264Params) (hinv : c.Inv) (hs : Step c a c') : Leads tx params c c' := by
  have hinv' := hinv.step hs
  cases hs with
  | repliedOk hearly hpc => exact leads_of_eq ((hinv'.abs_early hpc).trans (hinv.abs_early hearly).symm)
  | repliedErr hearly => exact leads_returnErr hinv (.inl hearly) _
  | locked hpc =>
    have hearly : c.connect.early = true := by rw [hpc]; rfl
    have hj := (ConnectPc.joinerOk_of_early hearly).mp hinv.connect
    have htasks := hinv.tasks
    rw [hj] at htasks
    have hpending := htasks.pending
    refine leads_of_step .register ?_
    rw [hinv.abs_early hearly, (hinv'.abs_inWait tx params rfl).1]
    simp [Session.step, Sys.startSession, Attempt.register, ConnectPc.isPolling, hpending]
  | pollPending hpc he =>
    exact leads_of_eq (by simp [Attempt.abs, hpc, he, ConnectPc.phase, ConnectPc.isPolling,
      ConnectPc.over])
  | pollEnded hpc => exact leads_returnErr hinv (.inr (by rw [hpc]; rfl)) _
  | readRemote hpc | notReady hpc | woke hpc => exact leads_polling hpc
  | peerOver hpc => exact leads_returnErr hinv (.inr (by rw [hpc]; rfl)) _
  | timedOut hpc => exact leads_returnErr hinv (.inr (by rw [hpc]; rfl)) _
  | @ready _ _ negotiated hpc =>
    obtain ⟨habs, hj⟩ := hinv.abs_inWait tx params (by rw [hpc]; rfl)
    have habs' : ({ c with connect := .ok negotiated } : Attempt).abs tx params =
        ⟨tx, params, .ready, c.ended, false⟩ := by
      simp [Attempt.abs, hj, ConnectPc.phase, ConnectPc.isPolling, ConnectPc.over]
    obtain ⟨acts, hacts⟩ := leads_fired tx params
      ⟨tx, params, .ready, .pending, false⟩ ConnectPhase.noConfusion rfl
      (hinv.ended_of_held hj)
    have hsucceed : Session.step ⟨tx, params, .registered, .pending, false⟩ .succeed =
        some ⟨tx, params, .ready, .pending, false⟩ := rfl
    unfold Leads
    rw [habs, habs', hpc]
    exact ⟨.succeed :: acts, (Path.single hsucceed).append hacts⟩
  | suspended hpc =>
    obtain ⟨habs, hj⟩ := hinv.abs_inWait tx params (by rw [hpc]; rfl)
    unfold Leads
    rw [habs, (hinv'.abs_inWait tx params rfl).1, hpc]
    exact leads_fired tx params ⟨tx, params, .registered, .pending, false⟩ ConnectPhase.noConfusion rfl
      (hinv.ended_of_held hj)
  | cancel hpc =>
    have hc : c.connect.early = true ∨ c.connect.inWait = true := by
      rcases hpc with hearly | ⟨ready, deadline, hpc⟩
      · exact .inl hearly
      · exact .inr (by rw [hpc]; rfl)
    exact leads_over .cancel hinv hc rfl fun _ hin hst => step_cancel ⟨hst, hin⟩
  | dropHandle hpc hj =>
    rw [Attempt.dropJoiner_of_held hj]
    refine leads_of_step .dropHandle ?_
    simp [Attempt.abs, hpc, hj, ConnectPc.phase, ConnectPc.isPolling, ConnectPc.over, Session.step]
  | closed hd => exact leads_endDriver hinv hd
  | closeFailed hd => exact leads_endDriver hinv hd
  | closeTimedOut hd => exact leads_endDriver hinv hd
  | _ => exact leads_of_eq rfl

/-- Every run of an attempt is, for the supervisor, a run of a session: the outcome of `connect()`, the
handle and the `ended` signal come as the life of the session allows. -/
theorem attempt_follows_lifecycle (tx : Nat) (params : H264Params) (h : Reachable attemptSystem c)
    {as : List Action} (hp : Path attemptSystem c as c') :
    ∃ acts, Path (lifecycle tx params) (c.abs tx params) acts (c'.abs tx params) := by
  have hsim : Simulates attemptSystem (lifecycle tx params) fun c x => x = c.abs tx params := by
    rintro c a c' _ hr hs rfl
    obtain ⟨acts, hacts⟩ := leads_step tx params (Attempt.inv_of_reachable hr)
      (step_of_eq hs)
    exact ⟨acts, _, hacts, rfl⟩
  obtain ⟨acts, x, hacts, rfl⟩ := hsim.path h hp rfl
  exact ⟨acts, hacts⟩

/-- An offer of H.264. -/
def offer : String := "a=fmtp:96 packetization-mode=1;profile-level-id=42e01f\r\n"

def packet : RtpPacket where
  header := ⟨2, false, false, false, 96, 0, 0, 0, [], 0, []⟩
  payload := [1]

/-- The run to the poll that finds the peer connected and the offer set. -/
def toReady : List Action :=
  [.reply none, .reply none, .reply none, .reply none, .locked, .poll, .advance, .advance, .suspend,
    .session (.event (.offer "0")), .remoteSet offer, .peerState .connected, .tick readyInterval, .poll,
    .advance, .advance]

/-- The signaling closes while `wait_for_ready` is polled: `connect()` returns `Ok`, and the signal
counts as fired after that. -/
theorem attempt_follows_lifecycle_closed : ∃ c as c', Reachable attemptSystem c ∧
    Path attemptSystem c as c' ∧ c'.connect = .ok ⟨"42e01f", "", 1, 96⟩ ∧ c'.ended = .fired ∧
    ∃ acts, Path (lifecycle 0 stubParams) (c.abs 0 stubParams) acts (c'.abs 0 stubParams) := by
  obtain ⟨c, hr, hp⟩ := exists_reachable_of_run attemptSystem toReady
    (fun c : Attempt => (run attemptSystem c [.session .handleFails, .session (.event .closed),
        .sessionOver, .closed false, .advance]).any
      fun c' : Attempt => decide (c'.connect = .ok (H264Params.mk "42e01f" "" 1 96) ∧
        c'.ended = EndSignal.fired)) (by decide +kernel)
  obtain ⟨c', hpath, hc'⟩ := exists_path_of_run hp
  obtain ⟨hok, hended⟩ := of_decide_eq_true hc'
  exact ⟨c, _, c', hr, hpath, hok, hended, attempt_follows_lifecycle 0 stubParams hr hpath⟩

/-! ## What `Ok` stands for -/

/-- On the way the peer was connected after the description with these parameters had been read. -/
def Earned (as : List Action) (c : Attempt) (params : H264Params) : Prop :=
  ∃ sdp, extractH264Params sdp = some params ∧ Passes attemptSystem .new as c fun bs t =>
    t.peer = some .connected ∧ Passes attemptSystem .new bs t fun _ u =>
      u.remoteDescription = some sdp ∧ u.connect.isPolling = true

def ConnectPc.ready? : ConnectPc → Option ReadyPc
  | waiting ready _ | polling ready _ => some ready
  | _ => none

/-- What `wait_for_ready` goes by has been there. -/
structure History (as : List Action) (c : Attempt) : Prop where
  read : ∀ remote, c.connect.ready? = some (.state remote) →
    Passes attemptSystem .new as c fun _ u =>
      u.remoteDescription = remote ∧ u.connect.isPolling = true
  earned : ∀ params, c.connect = .ok params → Earned as c params

theorem Earned.snoc {as : List Action} (h : Earned as c params)
    (hs : attemptSystem.step c a = some c') : Earned (as ++ [a]) c' params := by
  obtain ⟨sdp, hsdp, hpasses⟩ := h
  exact ⟨sdp, hsdp, hpasses.snoc hs⟩

/-- `connect` is neither past the reading of a description nor at its end. -/
theorem History.of_ne {as : List Action} (hread : ∀ remote, c.connect.ready? ≠ some (.state remote))
    (hok : ∀ params, c.connect ≠ .ok params) : History as c :=
  ⟨fun remote hpc => absurd hpc (hread remote), fun params hpc => absurd hpc (hok params)⟩

/-- `connect` stays where it is, but for the poll it is in. -/
theorem History.snoc {as : List Action} (h : History as c) (hs : attemptSystem.step c a = some c')
    (hready : c'.connect.ready? = c.connect.ready?)
    (hok : ∀ params, c'.connect = .ok params → c.connect = .ok params) : History (as ++ [a]) c' :=
  ⟨fun remote h' => (h.read remote (hready ▸ h')).snoc hs, fun params h' =>
    (h.earned params (hok params h')).snoc hs⟩

theorem history_step {as : List Action} (h : History as c) (hp : Path attemptSystem .new as c)
    (hs : attemptSystem.step c a = some c') : History (as ++ [a]) c' := by
  have hstep := step_of_eq hs
  cases hstep with
  | @repliedOk pc peer hearly hpc =>
    refine .of_ne ?_ ?_
    · intro remote hready
      cases pc with
      | waiting | polling => cases hpc
      | _ => cases hready
    · rintro params rfl
      cases hpc
  | repliedErr | pollEnded | peerOver | timedOut | cancel | locked | notReady | woke =>
    refine .of_ne ?_ ?_
    · intro remote hready
      cases hready
    · intro params hok
      cases hok
  | pollPending hpc | suspended hpc =>
    refine h.snoc hs ?_ ?_
    · rw [hpc]
      rfl
    · intro params hok
      cases hok
  | readRemote hpc =>
    refine ⟨fun remote hready => ?_, fun params hok => (by cases hok)⟩
    obtain rfl := ReadyPc.state.inj (Option.some.inj hready)
    exact (Passes.last hp ⟨rfl, by rw [hpc]; rfl⟩).snoc hs
  | @ready remote deadline params hpc hpeer hparams =>
    refine ⟨fun remote hready => (by cases hready), fun params' hok => ?_⟩
    obtain rfl := ConnectPc.ok.inj hok
    obtain ⟨sdp, rfl, hsdp⟩ := Option.bind_eq_some_iff.mp hparams
    exact ⟨sdp, hsdp, (Passes.last hp ⟨hpeer, h.read _ (by rw [hpc]; rfl)⟩).snoc hs⟩
  | dropHandle hpc hj =>
    rw [Attempt.dropJoiner_of_held hj] at hs ⊢
    exact h.snoc hs rfl fun _ hok => hok
  | _ => exact h.snoc hs rfl fun _ hok => hok

/-- `connect()` returns `Ok` only after it has, in polls of `wait_for_ready`, read a remote description
from which it takes these parameters and then found the peer connected. -/
theorem ok_earned {as : List Action} (hp : Path attemptSystem .new as c)
    (hok : c.connect = .ok params) : Earned as c params := by
  have hhistory : History as c := by
    refine hp.inductOn ?_ fun bs t b t' hp hs h => history_step h hp hs
    refine .of_ne ?_ ?_
    · intro remote hready
      cases hready
    · intro params hok
      cases hok
  exact hhistory.earned params hok

/-- The offer is set, the peer connects, and the next poll returns `Ok`. -/
theorem ok_earned_offer : ∃ as c, Path attemptSystem .new as c ∧
    c.connect = .ok ⟨"42e01f", "", 1, 96⟩ ∧ Earned as c ⟨"42e01f", "", 1, 96⟩ := by
  obtain ⟨c, hp, hok⟩ : ∃ c, Path attemptSystem .new (toReady ++ [.advance]) c ∧
      decide (c.connect = .ok ⟨"42e01f", "", 1, 96⟩) = true :=
    exists_path_of_run (by decide +kernel)
  exact ⟨_, c, hp, of_decide_eq_true hok, ok_earned hp (of_decide_eq_true hok)⟩

/-! ## What a stopped attempt leaves -/

namespace Attempt

/-- The packets of the track are forwarded in order, or wait in the channel. -/
def Fifo (c : Attempt) : Prop :=
  c.forwarded ++ (c.rtpInternal.queue ++ c.rtpInternal.waiting) = c.tracked

/-- The close of the peer connection is waited for ten seconds at most. -/
def Closing (c : Attempt) : Prop :=
  ∀ own deadline, c.driver = .closing own deadline → deadline ≤ c.now + pcCloseTimeout

theorem dropJoiner_fifo (h : c.Fifo) : c.dropJoiner.Fifo := by
  unfold dropJoiner
  split <;> exact h

theorem fifo_step (h : c.Fifo) (hs : Step c a c') : c'.Fifo := by
  unfold Fifo at h
  cases hs with
  | repliedErr | pollEnded | peerOver | timedOut | cancel | dropHandle => exact dropJoiner_fifo h
  | track =>
    unfold Fifo
    rw [Tokio.Mpsc.pending_send, ← List.append_assoc, h]
  | forward hf hr =>
    unfold Fifo
    rw [List.append_assoc, List.singleton_append, ← Tokio.Mpsc.pending_recv _ hr, h]
  | _ => exact h

theorem dropJoiner_driver (c : Attempt) : c.dropJoiner.driver = c.driver ∧ c.dropJoiner.now = c.now := by
  unfold dropJoiner
  split <;> exact ⟨rfl, rfl⟩

theorem closing_step (h : c.Closing) (hs : Step c a c') : c'.Closing := by
  intro own deadline hd
  cases hs with
  | repliedErr | pollEnded | peerOver | timedOut | cancel | dropHandle =>
    obtain ⟨hdriver, hnow⟩ := c.dropJoiner_driver
    have hle := h own deadline (hdriver.symm.trans hd)
    rw [← hnow] at hle
    exact hle
  | locked => cases hd
  | sessionOver | terminated | kill =>
    obtain ⟨-, rfl⟩ := DriverTask.closing.inj hd
    exact Nat.le_refl _
  | closed | closeFailed | closeTimedOut => cases hd
  | tick =>
    have hle := h own deadline hd
    show deadline ≤ c.now + _ + _
    omega
  | _ => exact h own deadline hd

/-- What is forwarded stays forwarded. -/
theorem forwarded_step (hs : Step c a c') : c.forwarded <+: c'.forwarded := by
  have hsame : c.dropJoiner.forwarded = c.forwarded := by
    unfold dropJoiner
    split <;> rfl
  cases hs with
  | repliedErr | pollEnded | peerOver | timedOut | cancel | dropHandle => exact hsame ▸ List.prefix_rfl
  | forward => exact List.prefix_append _ _
  | _ => exact List.prefix_rfl

/-- A stopped attempt stays stopped. -/
theorem stopped_step (h : c.Inv) (hj : c.joiner = .dropped) (hs : Step c a c') :
    c'.joiner = .dropped := by
  have hsame : c.dropJoiner.joiner = .dropped := by
    rw [dropJoiner_of_ne (by rw [hj]; exact Joiner.noConfusion)]
    exact hj
  cases hs with
  | repliedErr | pollEnded | peerOver | timedOut | cancel | dropHandle => exact hsame
  | locked hpc =>
    have habsent : c.joiner = .absent := h.at hpc
    rw [hj] at habsent
    cases habsent
  | _ => exact hj

/-- A stopped attempt whose forwarder is gone takes no packet of the track and forwards none. -/
theorem silent_step (h : c.Inv) (hj : c.joiner = .dropped) (hf : c.forwarder.alive = false)
    (hs : Step c a c') :
    c'.forwarder.alive = false ∧ c'.tracked = c.tracked ∧ c'.forwarded = c.forwarded := by
  have hsame : c.dropJoiner = c := dropJoiner_of_ne (by rw [hj]; exact Joiner.noConfusion)
  cases hs with
  | repliedErr | pollEnded | peerOver | timedOut | cancel | dropHandle =>
    simp only [returnErr, hsame, hf, and_self]
  | locked hpc =>
    have habsent : c.joiner = .absent := h.at hpc
    rw [hj] at habsent
    cases habsent
  | track hlive | forward hlive =>
    rw [hf] at hlive
    cases hlive
  | forwardEnds | forwarderStops => exact ⟨rfl, rfl, rfl⟩
  | _ => exact ⟨hf, rfl, rfl⟩

/-- The driver ends by the deadline of the close. -/
theorem ends_of_closing {own : Bool} {deadline : Nat} (hd : c.driver = .closing own deadline)
    (hle : deadline ≤ c.now + pcCloseTimeout) : ∃ as c', Path attemptSystem c as c' ∧
      c'.driver = .done ∧ c'.now ≤ c.now + pcCloseTimeout := by
  have htick : attemptSystem.step c (.tick pcCloseTimeout) =
      some { c with now := c.now + pcCloseTimeout } := rfl
  have hclose : attemptSystem.step { c with now := c.now + pcCloseTimeout } .closeTimedOut =
      some (({ c with now := c.now + pcCloseTimeout } : Attempt).endDriver own) := by
    simp [attemptSystem, step, hd, hle]
  exact ⟨_, _, (Path.single htick).append (Path.single hclose), rfl, Nat.le_refl _⟩

/-- A driver whose joiner is gone can end, with no help from outside. -/
theorem ends_of_dropped (h : c.Inv) (hclosing : c.Closing) (hj : c.joiner = .dropped) :
    ∃ as c', Path attemptSystem c as c' ∧ c'.driver = .done ∧ c'.now ≤ c.now + pcCloseTimeout := by
  cases hd : c.driver with
  | absent =>
    have habsent := h.tasks.absent.mpr hd
    rw [hj] at habsent
    cases habsent
  | selecting =>
    have hkill : attemptSystem.step c .kill = some (c.leaveSelect false) := if_pos ⟨hd, hj⟩
    obtain ⟨as, c', hp, hdone, hnow⟩ := ends_of_closing (c := c.leaveSelect false) rfl (Nat.le_refl _)
    exact ⟨_, c', (Path.single hkill).append hp, hdone, hnow⟩
  | closing own deadline => exact ends_of_closing hd (hclosing own deadline hd)
  | done => exact ⟨[], c, .nil c, hd, Nat.le_add_right _ _⟩

/-! ### Runs -/

theorem fifo_of_reachable (h : Reachable attemptSystem c) : c.Fifo := by
  have hnew : Attempt.new.Fifo := rfl
  exact h.induct (P := Fifo) hnew fun _ _ _ _ _ hs ht => fifo_step ht (step_of_eq hs)

theorem closing_of_reachable (h : Reachable attemptSystem c) : c.Closing := by
  have hnew : Attempt.new.Closing := fun _ _ hd => by cases hd
  exact h.induct (P := Closing) hnew fun _ _ _ _ _ hs ht => closing_step ht (step_of_eq hs)

variable {as : List Action}

theorem stopped_of_path (h : Reachable attemptSystem c) (hj : c.joiner = .dropped)
    (hp : Path attemptSystem c as c') : c'.joiner = .dropped :=
  hp.induct (P := fun t => t.joiner = .dropped) h hj fun _ _ _ hr _ hs ht =>
    stopped_step (inv_of_reachable hr) ht (step_of_eq hs)

theorem forwarded_of_path (h : Reachable attemptSystem c) (hp : Path attemptSystem c as c') :
    c.forwarded <+: c'.forwarded :=
  hp.induct (P := fun t => c.forwarded <+: t.forwarded) h List.prefix_rfl fun _ _ _ _ _ hs ht =>
    ht.trans (forwarded_step (step_of_eq hs))

theorem silent_of_path (h : Reachable attemptSystem c) (hj : c.joiner = .dropped)
    (hf : c.forwarder.alive = false) (hp : Path attemptSystem c as c') :
    c'.forwarder.alive = false ∧ c'.tracked = c.tracked ∧ c'.forwarded = c.forwarded := by
  have hsilent : c'.joiner = .dropped ∧ c'.forwarder.alive = false ∧ c'.tracked = c.tracked ∧
      c'.forwarded = c.forwarded := by
    refine hp.induct (P := fun t => t.joiner = .dropped ∧ t.forwarder.alive = false ∧
      t.tracked = c.tracked ∧ t.forwarded = c.forwarded) h ⟨hj, hf, rfl, rfl⟩ ?_
    rintro t a t' hr - hs ⟨htj, htf, htracked, hforwarded⟩
    have hinv := inv_of_reachable hr
    obtain ⟨htf', htracked', hforwarded'⟩ := silent_step hinv htj htf (step_of_eq hs)
    have htj' := stopped_step hinv htj (step_of_eq hs)
    exact ⟨htj', htf', htracked'.trans htracked, hforwarded'.trans hforwarded⟩
  exact hsilent.2

theorem Inv.not_running (h : c.Inv) (hj : c.joiner = .dropped) : c.forwarder ≠ .running := by
  intro hf
  have hheld := h.tasks.forwarder hf
  rw [hj] at hheld
  cases hheld

/-- The forwarder of a stopped attempt can stop where it is. -/
theorem silenced_of_dropped (h : c.Inv) (hj : c.joiner = .dropped) :
    ∃ as c', Path attemptSystem c as c' ∧ c'.forwarder.alive = false ∧ c'.now = c.now := by
  cases hf : c.forwarder with
  | running => exact absurd hf (h.not_running hj)
  | aborting => exact ⟨[.forwarderStops], _, .single (if_pos hf), rfl, rfl⟩
  | _ => exact ⟨[], c, .nil c, by rw [hf]; rfl, rfl⟩

/-- Once the joiner of an attempt has been dropped, by an error, a cancelled call or the drop of the
stop handle, it stays so. What goes into the broadcast channel is at any time the first packets of the
track, and none more after the forwarder, which is aborted at its next await, has got there. The
forwarder can always stop and the driver end within ten seconds, and when the driver has, `run_session`
is over and the `ended` signal is given. -/
theorem attempt_stops (h : Reachable attemptSystem c) (hj : c.joiner = .dropped) :
    (∀ as c', Path attemptSystem c as c' → c'.joiner = .dropped ∧ c'.forwarder ≠ .running ∧
      c.forwarded <+: c'.forwarded ∧ c'.forwarded <+: c'.tracked ∧
      (c'.forwarder ≠ .aborting → ∀ bs c'', Path attemptSystem c' bs c'' →
        c''.tracked = c'.tracked ∧ c''.forwarded = c'.forwarded)) ∧
      ∃ as c', Path attemptSystem c as c' ∧ c'.forwarder.alive = false ∧ c'.driver = .done ∧
        c'.session.pc = .stopped ∧ c'.ended ≠ .pending ∧ c'.now ≤ c.now + pcCloseTimeout := by
  constructor
  · intro as c' hp
    have hr := hp.reachableWhere h
    have hj' := stopped_of_path h hj hp
    have hrunning := (inv_of_reachable hr).not_running hj'
    refine ⟨hj', hrunning, forwarded_of_path h hp, ⟨_, fifo_of_reachable hr⟩, ?_⟩
    intro haborting bs c'' hq
    exact (silent_of_path hr hj' (Forwarder.alive_eq_false hrunning haborting) hq).2
  · obtain ⟨as, t, hp, hsilent, hnow⟩ := silenced_of_dropped (inv_of_reachable h) hj
    have hr := hp.reachableWhere h
    have htj := stopped_of_path h hj hp
    obtain ⟨bs, c', hq, hdone, hnow'⟩ :=
      ends_of_dropped (inv_of_reachable hr) (closing_of_reachable hr) htj
    have hr' := hq.reachableWhere hr
    have htasks := (inv_of_reachable hr').tasks
    have hlater : c'.now ≤ c.now + pcCloseTimeout := hnow ▸ hnow'
    exact ⟨as ++ bs, c', hp.append hq, (silent_of_path hr htj hsilent hq).1, hdone,
      htasks.session (.inl hdone), htasks.ended.mpr hdone, hlater⟩

/-- The call is cancelled in `wait_for_ready` with one packet forwarded and two in the channel; the
forwarder sends one of them yet. -/
theorem attempt_stops_cancelled : ∃ c as c', Reachable attemptSystem c ∧ c.tracked.length = 3 ∧
    c.forwarded.length = 1 ∧ Path attemptSystem c as c' ∧ c'.forwarded.length = 2 ∧
    (∀ bs c'', Path attemptSystem c' bs c'' → c''.forwarded = c'.forwarded) ∧
    ∃ as c', Path attemptSystem c as c' ∧ c'.forwarder.alive = false ∧ c'.driver = .done ∧
      c'.session.pc = .stopped ∧ c'.ended ≠ .pending ∧ c'.now ≤ c.now + pcCloseTimeout := by
  obtain ⟨c, hr, hp⟩ := exists_reachable_of_run attemptSystem
    [.reply none, .reply none, .reply none, .reply none, .locked, .session (.event (.offer "0")),
      .remoteSet offer, .track packet, .track packet, .track packet, .forward, .cancel]
    (fun c : Attempt => decide (c.joiner = .dropped ∧ c.tracked.length = 3 ∧ c.forwarded.length = 1) &&
      (run attemptSystem c [.forward, .forwarderStops]).any
        fun c' : Attempt => decide (c'.forwarder = .aborted ∧ c'.forwarded.length = 2))
    (by decide +kernel)
  obtain ⟨hc, hrun⟩ := Bool.and_eq_true_iff.mp hp
  obtain ⟨hj, htracked, hforwarded⟩ := of_decide_eq_true hc
  obtain ⟨c', hpath, hc'⟩ := exists_path_of_run hrun
  obtain ⟨haborted, hforwarded'⟩ := of_decide_eq_true hc'
  obtain ⟨hkept, hends⟩ := attempt_stops hr hj
  obtain ⟨-, -, -, -, hsilent⟩ := hkept _ c' hpath
  have hstill : ∀ bs c'', Path attemptSystem c' bs c'' → c''.forwarded = c'.forwarded :=
    fun bs c'' hq => (hsilent (by rw [haborted]; exact Forwarder.noConfusion) bs c'' hq).2
  exact ⟨c, _, c', hr, htracked, hforwarded, hpath, hforwarded', hstill, hends⟩

end Attempt

end Buddy3dProxy.Supervisor.WebRtcFactory
