import Buddy3dProxy.Supervisor.Handles
import Buddy3dProxy.Transition.Simulation

/-!
# The life of a session

What the supervisor and the factory may do with one connect attempt and the session it brings up, as
an automaton of its own. The supervisor keeps to it with each of its sessions: an attempt has one
outcome, it succeeds only before its session has ended, and the stop handle is dropped once.
-/

namespace Buddy3dProxy.Supervisor

open Rtsp Transition

inductive SessionAction where
  /-- The outbound sender is registered. -/
  | register
  /-- `connect()` returns `Ok`. -/
  | succeed
  /-- `connect()` returns `Err`. -/
  | fail
  /-- The connect future is dropped. -/
  | cancel
  /-- The stop handle is dropped. -/
  | dropHandle
  /-- The session ends on its own. -/
  | ends
  /-- The session ends because it was stopped. -/
  | killed
  deriving DecidableEq, Repr

namespace Session

def step (x : Session) : SessionAction → Option Session
  | .register => if x.phase = .starting then some { x with phase := .registered } else none
  | .succeed =>
    if x.phase = .registered ∧ x.ended = .pending then some { x with phase := .ready } else none
  | .fail =>
    if x.phase.inFlight = true ∧ x.stopped = false then
      some { x with phase := .failed, stopped := true }
    else none
  | .cancel =>
    if x.phase.inFlight = true ∧ x.stopped = false then
      some { x with phase := .cancelled, stopped := true }
    else none
  | .dropHandle =>
    if x.phase = .ready ∧ x.stopped = false then some { x with stopped := true } else none
  | .ends =>
    if x.phase ≠ .starting ∧ x.ended = .pending then some { x with ended := .fired } else none
  | .killed =>
    if x.stopped = true ∧ x.ended = .pending then some { x with ended := .closed } else none

end Session

/-- The life of a session that sends into the channel `tx` and negotiates `params`. -/
def lifecycle (tx : Nat) (params : H264Params) : Transition.System Session SessionAction :=
  ⟨Sys.startSession tx params, Session.step⟩

variable {s s' : Sys} {a : Action} {j k tx : Nat} {x x' : Session} {params : H264Params}

/-! ## What happens once -/

namespace SessionAction

/-- `connect()` is over. -/
def isOutcome : SessionAction → Bool
  | succeed | fail | cancel => true
  | _ => false

/-- The session is stopped. -/
def stops : SessionAction → Bool
  | fail | cancel | dropHandle => true
  | _ => false

def isEnd : SessionAction → Bool
  | ends | killed => true
  | _ => false

end SessionAction

namespace Session

def outcomes (x : Session) : Nat := if x.phase.inFlight then 0 else 1

def stops (x : Session) : Nat := if x.stopped then 1 else 0

def ends (x : Session) : Nat := if x.ended = .pending then 0 else 1

/-- What an action adds to the outcomes, stops and ends of a session. -/
structure Counts (n m e : Nat) (x x' : Session) : Prop where
  outcomes : n + x.outcomes = x'.outcomes
  stops : m + x.stops = x'.stops
  ends : e + x.ends = x'.ends

theorem outcomes_of_inFlight (h : x.phase.inFlight = true) : x.outcomes = 0 := if_pos h

theorem stops_of_running (h : x.stopped = false) : x.stops = 0 := by simp [stops, h]

theorem ends_of_pending (h : x.ended = .pending) : x.ends = 0 := if_pos h

theorem counts_step {act : SessionAction} (hs : x.step act = some x') :
    Counts act.isOutcome.toNat act.stops.toNat act.isEnd.toNat x x' := by
  cases act <;> simp only [step, Option.ite_none_right_eq_some, Option.some.injEq] at hs <;>
    obtain ⟨hguard, rfl⟩ := hs
  case register =>
    have hzero := outcomes_of_inFlight (x := x) (by rw [hguard]; rfl)
    exact ⟨(Nat.zero_add _).trans hzero, Nat.zero_add _, Nat.zero_add _⟩
  case succeed =>
    have hzero := outcomes_of_inFlight (x := x) (by rw [hguard.1]; rfl)
    exact ⟨congrArg (1 + ·) hzero, Nat.zero_add _, Nat.zero_add _⟩
  case fail | cancel =>
    have hzero := outcomes_of_inFlight hguard.1
    exact ⟨congrArg (1 + ·) hzero, congrArg (1 + ·) (stops_of_running hguard.2), Nat.zero_add _⟩
  case dropHandle =>
    exact ⟨Nat.zero_add _, congrArg (1 + ·) (stops_of_running hguard.2), Nat.zero_add _⟩
  case ends | killed =>
    exact ⟨Nat.zero_add _, Nat.zero_add _, congrArg (1 + ·) (ends_of_pending hguard.2)⟩

theorem counts_path {acts : List SessionAction} (hp : Path (lifecycle tx params) x acts x') :
    Counts (acts.countP (·.isOutcome)) (acts.countP (·.stops)) (acts.countP (·.isEnd)) x x' := by
  induction hp with
  | nil => exact ⟨Nat.zero_add _, Nat.zero_add _, Nat.zero_add _⟩
  | @snoc y z as act hp _ hs ih =>
    have hstep := counts_step hs
    have hcount (p : SessionAction → Bool) : (as ++ [act]).countP p = as.countP p + (p act).toNat := by
      rw [List.countP_append, List.countP_singleton]
      cases p act <;> rfl
    refine ⟨?_, ?_, ?_⟩ <;> rw [hcount]
    · have h := ih.outcomes
      have h' := hstep.outcomes
      omega
    · have h := ih.stops
      have h' := hstep.stops
      omega
    · have h := ih.ends
      have h' := hstep.ends
      omega

/-- In the life of a session there is one outcome, one stop and one end at most. -/
theorem once_of_path {acts : List SessionAction} (hp : Path (lifecycle tx params) x acts x') :
    acts.countP (·.isOutcome) ≤ 1 ∧ acts.countP (·.stops) ≤ 1 ∧ acts.countP (·.isEnd) ≤ 1 := by
  have h := counts_path hp
  have houtcomes : x'.outcomes ≤ 1 := by unfold outcomes; split <;> omega
  have hstops : x'.stops ≤ 1 := by unfold stops; split <;> omega
  have hends : x'.ends ≤ 1 := by unfold ends; split <;> omega
  have h1 := h.outcomes
  have h2 := h.stops
  have h3 := h.ends
  omega

end Session

/-! ## A step of the supervisor -/

/-- Session `j` takes steps of its life from `x` on. -/
def Advances (tx : Nat) (params : H264Params) (ss : List Session) (j : Nat) (x : Session) : Prop :=
  ∃ acts x', Path (lifecycle tx params) x acts x' ∧ ss[j]? = some x'

theorem advances_same {ss : List Session} (hx : ss[j]? = some x) : Advances tx params ss j x :=
  ⟨[], x, .nil x, hx⟩

theorem advances_append {ss : List Session} (hx : ss[j]? = some x) (y : Session) :
    Advances tx params (ss ++ [y]) j x :=
  advances_same (Pool.getElem?_append_of_some hx)

theorem advances_modify {ss : List Session} {f : Session → Session} (hx : ss[j]? = some x)
    (hf : k = j → ∃ act, x.step act = some (f x)) : Advances tx params (ss.modify k f) j x := by
  by_cases hk : k = j
  · subst hk
    obtain ⟨act, hact⟩ := hf rfl
    exact ⟨[act], f x, .single hact, by rw [List.getElem?_modify_eq, hx]; rfl⟩
  · exact advances_same (by rw [List.getElem?_modify_ne _ _ hk]; exact hx)

theorem Held.of_getElem? {ss : List Session} {ph : ConnectPhase → Bool} (h : Held ss j tx ph)
    (hx : ss[j]? = some x) : x.stopped = false ∧ ph x.phase = true := by
  obtain ⟨y, hy, -, hst, hph⟩ := h
  obtain rfl : y = x := Option.some.inj (hy.symm.trans hx)
  exact ⟨hst, hph⟩

/-- The stop handle of a session that is held is dropped. -/
theorem step_dropHandle (h : x.stopped = false ∧ x.phase.isReady = true) :
    x.step .dropHandle = some { x with stopped := true } := by
  obtain ⟨hst, hph⟩ := h
  have hready : x.phase = .ready := by
    cases hx : x.phase with
    | ready => rfl
    | _ => rw [hx] at hph; cases hph
  simp [Session.step, hst, hready]

theorem advances_dropStored (hsessions : s.SessionsOk) (hx : s.sessions[j]? = some x) :
    Advances tx params s.dropStored.sessions j x := by
  unfold Sys.dropStored
  cases hstop : s.stop with
  | none => exact advances_same hx
  | some k =>
    refine advances_modify hx fun hk => ?_
    obtain ⟨c, -, hheld⟩ := hsessions.stored k hstop
    exact ⟨.dropHandle, step_dropHandle ((hk ▸ hheld).of_getElem? hx)⟩

/-- The attempt that a call or watchdog waits for ends. -/
theorem step_fail (h : x.stopped = false ∧ x.phase.inFlight = true) :
    x.step .fail = some { x with phase := .failed, stopped := true } := by
  simp [Session.step, h.1, h.2]

theorem step_cancel (h : x.stopped = false ∧ x.phase.inFlight = true) :
    x.step .cancel = some { x with phase := .cancelled, stopped := true } := by
  simp [Session.step, h.1, h.2]

theorem advances_connectOk (hc : s.canSucceed k = true) (hx : s.sessions[j]? = some x) :
    Advances tx params (s.connectOk k).sessions j x := by
  refine advances_modify hx fun hk => ⟨.succeed, ?_⟩
  have hready : x.phase = .registered ∧ x.ended = .pending := by
    simpa [Sys.canSucceed, hk, hx] using hc
  simp [Session.step, hready]

/-- Each session advances in its life, or stays as it is. -/
theorem advances_step (hsessions : s.SessionsOk) (hx : s.sessions[j]? = some x)
    (hs : Step s a s') : Advances tx params s'.sessions j x := by
  cases hs with
  | startConnect | watchdogConnect => exact advances_append hx _
  | callConnectOk hi hc => exact advances_connectOk hc hx
  | watchdogOk hw hpc hc => exact advances_connectOk hc hx
  | callConnectErr hi =>
    have hheld := hsessions.call _ (List.mem_of_getElem? hi)
    exact advances_modify hx fun hk => ⟨.fail, step_fail ((hk ▸ hheld).of_getElem? hx)⟩
  | watchdogErr hw hpc =>
    have hheld := hsessions.watchdog _ (List.mem_of_getElem? hw)
    rw [hpc] at hheld
    exact advances_modify hx fun hk => ⟨.fail, step_fail ((hk ▸ hheld).of_getElem? hx)⟩
  | cancelConnect hi =>
    have hheld := hsessions.call _ (List.mem_of_getElem? hi)
    exact advances_modify hx fun hk => ⟨.cancel, step_cancel ((hk ▸ hheld).of_getElem? hx)⟩
  | cancelConnected hi =>
    have hheld := hsessions.call _ (List.mem_of_getElem? hi)
    exact advances_modify hx fun hk => ⟨.dropHandle, step_dropHandle ((hk ▸ hheld).of_getElem? hx)⟩
  | discard hw hpc =>
    have hheld := hsessions.watchdog _ (List.mem_of_getElem? hw)
    rw [hpc] at hheld
    exact advances_modify hx fun hk => ⟨.dropHandle, step_dropHandle ((hk ▸ hheld).of_getElem? hx)⟩
  | install | reinstall | teardown => exact advances_dropStored hsessions hx
  | @register k y hy hp =>
    refine advances_modify hx fun hk => ⟨.register, ?_⟩
    obtain rfl : y = x := Option.some.inj (hy.symm.trans (hk ▸ hx))
    simp [Session.step, hp]
  | @sessionEnds k y hy hp he =>
    refine advances_modify hx fun hk => ⟨.ends, ?_⟩
    obtain rfl : y = x := Option.some.inj (hy.symm.trans (hk ▸ hx))
    simp [Session.step, hp, he]
  | @sessionKilled k y hy hp he =>
    refine advances_modify hx fun hk => ⟨.killed, ?_⟩
    obtain rfl : y = x := Option.some.inj (hy.symm.trans (hk ▸ hx))
    simp [Session.step, hp, he]
  | _ => exact advances_same hx

/-! ## A run of the supervisor -/

variable {idleTimeout : Nat} {failedRx : Option Bool}

theorem session_simulates (tx : Nat) (params : H264Params) (j : Nat) :
    Simulates (system idleTimeout failedRx) (lifecycle tx params)
      fun s x => s.sessions[j]? = some x :=
  fun _ _ _ _ hr hs hx => advances_step (sessions_of_reachable hr) hx (step_of_eq hs)

/-- Along every run the supervisor uses each of its sessions as its life allows, so that it takes one
outcome of the attempt and drops one handle at most. -/
theorem session_follows_lifecycle (h : Reachable (system idleTimeout failedRx) s)
    (hx : s.sessions[j]? = some x) {as : List Action}
    (hp : Path (system idleTimeout failedRx) s as s') :
    ∃ acts x', Path (lifecycle x.tx x.params) x acts x' ∧ s'.sessions[j]? = some x' ∧
      acts.countP (·.isOutcome) ≤ 1 ∧ acts.countP (·.stops) ≤ 1 ∧ acts.countP (·.isEnd) ≤ 1 := by
  obtain ⟨acts, x', hacts, hx'⟩ := (session_simulates x.tx x.params j).path h hp hx
  exact ⟨acts, x', hacts, hx', Session.once_of_path hacts⟩

/-- Session 0 ends under its viewer, the supervisor replaces it, and it is stopped once. -/
theorem session_follows_lifecycle_replaced : ∃ s as s' acts x', Reachable (system 60 none) s ∧
    Path (system 60 none) s as s' ∧
    Path (lifecycle 0 stubParams) (Sys.startSession 0 stubParams) acts x' ∧
    s'.sessions[0]? = some x' ∧ x' = ⟨0, stubParams, .ready, .fired, true⟩ := by
  obtain ⟨s, hr, hp⟩ := exists_reachable_of_run (system 60 none)
    [.subscribe, .call 0, .call 0, .startConnect 0 stubParams]
    (fun s : Sys => decide (s.sessions[0]? = some (Sys.startSession 0 stubParams)) &&
      (run (system 60 none) s ([.register 0, .callConnect 0 .ok, .call 0, .call 0, .call 0,
          .viewerEvent] ++ reconnect stubParams)).any
        fun s' : Sys => decide (s'.sessions[0]? = some (Session.mk 0 stubParams .ready .fired true)))
    (by decide +kernel)
  obtain ⟨hx, hrun⟩ := Bool.and_eq_true_iff.mp hp
  obtain ⟨s', hpath, hs'⟩ := exists_path_of_run hrun
  obtain ⟨acts, x', hacts, hx', -⟩ := session_follows_lifecycle hr (of_decide_eq_true hx) hpath
  have he : x' = ⟨0, stubParams, .ready, .fired, true⟩ :=
    Option.some.inj (hx'.symm.trans (of_decide_eq_true hs'))
  exact ⟨s, _, s', acts, x', hr, hpath, hacts, hx', he⟩

end Buddy3dProxy.Supervisor
