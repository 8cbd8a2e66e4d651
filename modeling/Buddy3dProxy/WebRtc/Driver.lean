import Buddy3dProxy.Tokio.Mpsc
import Buddy3dProxy.Transition.System

/-!
# The WebRTC session driver

`run_session` with `handle_signal` of `webrtc_session.rs`, and the candidate callback that shares the
driver's outbound channel. The driver is the only receiver of that channel and also sends into it.
-/

namespace Buddy3dProxy.WebRtc

/-- A signal on its way out. -/
inductive OutboundSignal where
  | candidate (candidate sdpMid : String)
  | answer (sdp mid : String)
  deriving DecidableEq, Repr

/-- What `signaling.events.recv` gives; `none` of the source is `closed` as well. -/
inductive SignalingEvent where
  | offer (mid : String)
  | iceCandidate (candidate : String)
  /-- A signal of another type, or an event the driver only logs. -/
  | ignored
  | closed
  deriving DecidableEq, Repr

/-- Where the driver stands. -/
inductive DriverPc where
  /-- In the `select!` of `run_session`. -/
  | selecting
  /-- In `set_remote_description` for an offer. -/
  | settingRemote (mid : String)
  /-- In `create_answer`. -/
  | creatingAnswer (mid : String)
  /-- In `set_local_description`. -/
  | settingLocal (mid : String)
  /-- Waiting for a slot in `outbound_signal_tx.send(reply)`. -/
  | sendingAnswer
  /-- Handling a remote candidate. -/
  | addingIce (candidate : String)
  /-- In `signaling.send_webrtc`. -/
  | writing (signal : OutboundSignal)
  | stopped
  deriving DecidableEq, Repr

/-- In `handle_signal` with an offer whose answer is still to be sent. -/
def DriverPc.handlingOffer : DriverPc → Bool
  | .settingRemote _ | .creatingAnswer _ | .settingLocal _ => true
  | _ => false

structure Driver where
  pc : DriverPc
  /-- `set_local_description` has begun once, so candidates are being gathered. -/
  gathering : Bool
  remoteDescription : Bool
  /-- Remote candidates that came before the offer. -/
  pendingIce : List String
  channel : Tokio.Mpsc 32 OutboundSignal
  /-- The signals handed to the signaling connection. -/
  sent : List OutboundSignal
  deriving DecidableEq, Repr

inductive Action where
  | event (ev : SignalingEvent)
  /-- `handle_signal` returns early with an error. -/
  | handleFails
  | remoteSet
  | answerCreated
  | localSet (sdp : String)
  | iceHandled
  /-- The callback of the peer connection, in one of its own tasks. -/
  | candidate (candidate sdpMid : String)
  | recvOut
  | written (ok : Bool)
  /-- The task drops `run_session`: the peer connection ended, or the session was stopped. -/
  | dropped
  deriving DecidableEq, Repr

namespace Driver

def new : Driver := ⟨.selecting, false, false, [], .channel, []⟩

def step (s : Driver) : Action → Option Driver
  | .event ev =>
    if s.pc = .selecting then
      match ev with
      | .offer mid => some { s with pc := .settingRemote mid }
      | .iceCandidate candidate => some { s with pc := .addingIce candidate }
      | .ignored => some s
      | .closed => some { s with pc := .stopped }
    else none
  | .handleFails =>
    match s.pc with
    | .settingRemote _ | .creatingAnswer _ | .settingLocal _ | .addingIce _ =>
      some { s with pc := .selecting }
    | _ => none
  | .remoteSet =>
    match s.pc with
    | .settingRemote mid =>
      some { s with pc := .creatingAnswer mid, remoteDescription := true, pendingIce := [] }
    | _ => none
  | .answerCreated =>
    match s.pc with
    | .creatingAnswer mid => some { s with pc := .settingLocal mid, gathering := true }
    | _ => none
  | .localSet sdp =>
    match s.pc with
    | .settingLocal mid =>
      some { s with
        pc := if s.channel.hasRoom then .selecting else .sendingAnswer
        channel := s.channel.send (.answer sdp mid) }
    | _ => none
  | .iceHandled =>
    match s.pc with
    | .addingIce candidate =>
      some { s with
        pc := .selecting
        pendingIce := if s.remoteDescription then s.pendingIce else s.pendingIce ++ [candidate] }
    | _ => none
  | .candidate candidate sdpMid =>
    if s.gathering ∧ s.pc ≠ .stopped then
      some { s with channel := s.channel.send (.candidate candidate sdpMid) }
    else none
  | .recvOut =>
    if s.pc = .selecting then
      s.channel.recv.map fun r => { s with pc := .writing r.1, channel := r.2 }
    else none
  | .written ok =>
    match s.pc with
    | .writing signal =>
      if ok then some { s with pc := .selecting, sent := s.sent ++ [signal] }
      else some { s with pc := .stopped }
    | _ => none
  | .dropped => some { s with pc := .stopped }

end Driver

/-- The runs of a driver. -/
def driverSystem : Transition.System Driver Action := ⟨.new, Driver.step⟩

/-- The driver waits for a slot of the channel that only the driver itself receives from. -/
def Driver.SelfBlocked (s : Driver) : Prop := s.pc = .sendingAnswer ∧ s.channel.queue.length = 32

/-- While an offer is being handled, the slot of its answer stays free: no offer is taken up with
every slot in use, and no candidate takes the last free one before the answer is sent. -/
def Driver.keepsSlot (s : Driver) : Action → Bool
  | .event (.offer _) => s.channel.queue.length < 32
  | .candidate _ _ => !s.pc.handlingOffer || s.channel.queue.length < 31
  | _ => true

/-! ## Before the first offer -/

namespace Driver

/-- No offer has been taken up: nothing is gathered and nothing is on its way out. -/
structure Quiet (s : Driver) : Prop where
  gathering : s.gathering = false
  queue : s.channel.queue = []
  pc : s.pc = .selecting ∨ (∃ candidate, s.pc = .addingIce candidate) ∨ s.pc = .stopped

theorem Quiet.new : Quiet .new := ⟨rfl, rfl, .inl rfl⟩

theorem Quiet.step {s s' : Driver} {a : Action} (h : s.Quiet) (ha : ∀ mid, a ≠ .event (.offer mid))
    (hs : s.step a = some s') : s'.Quiet := by
  cases a with
  | event ev =>
    by_cases hpc : s.pc = .selecting
    · simp only [Driver.step, if_pos hpc] at hs
      cases ev with
      | offer mid => exact absurd rfl (ha mid)
      | iceCandidate candidate =>
        cases hs
        exact ⟨h.gathering, h.queue, .inr (.inl ⟨candidate, rfl⟩)⟩
      | ignored =>
        cases hs
        exact h
      | closed =>
        cases hs
        exact ⟨h.gathering, h.queue, .inr (.inr rfl)⟩
    · simp [Driver.step, hpc] at hs
  | handleFails | iceHandled =>
    rcases h.pc with hpc | ⟨candidate, hpc⟩ | hpc <;> simp [Driver.step, hpc] at hs
    subst hs
    exact ⟨h.gathering, h.queue, .inl rfl⟩
  | remoteSet | answerCreated | localSet sdp | written ok =>
    rcases h.pc with hpc | ⟨candidate, hpc⟩ | hpc <;> simp [Driver.step, hpc] at hs
  | candidate candidate sdpMid => simp [Driver.step, h.gathering] at hs
  | recvOut => simp [Driver.step, Tokio.Mpsc.recv_of_empty _ h.queue] at hs
  | dropped =>
    cases hs
    exact ⟨h.gathering, h.queue, .inr (.inr rfl)⟩

theorem Quiet.not_writing {s : Driver} (h : s.Quiet) (signal : OutboundSignal) :
    s.pc ≠ .writing signal := by
  rcases h.pc with hpc | ⟨candidate, hpc⟩ | hpc <;> simp [hpc]

end Driver

/-! ## The slot of the answer -/

namespace Driver

/-- The driver does not wait for a slot, and while it handles an offer one is free. -/
structure Inv (s : Driver) : Prop where
  notWaiting : s.pc ≠ .sendingAnswer
  slotFree : s.pc.handlingOffer = true → s.channel.queue.length < 32

theorem Inv.new : Inv .new where
  notWaiting := by simp [Driver.new]
  slotFree := by simp [Driver.new, DriverPc.handlingOffer]

/-- A position outside the handling of an offer, where the driver waits for nothing. -/
theorem Inv.of_pc {s : Driver} (h : s.pc ≠ .sendingAnswer) (ho : s.pc.handlingOffer = false) :
    s.Inv :=
  ⟨h, by simp [ho]⟩

theorem Inv.step {s s' : Driver} {a : Action} (h : s.Inv) (hok : s.keepsSlot a = true)
    (hs : s.step a = some s') : s'.Inv := by
  cases a with
  | event ev =>
    by_cases hpc : s.pc = .selecting
    · simp only [Driver.step, hpc, if_true] at hs
      cases ev with
      | offer mid =>
        cases hs
        exact ⟨by simp, fun _ => of_decide_eq_true hok⟩
      | iceCandidate candidate =>
        cases hs
        exact .of_pc (by simp) rfl
      | ignored =>
        cases hs
        exact h
      | closed =>
        cases hs
        exact .of_pc (by simp) rfl
    · simp [Driver.step, hpc] at hs
  | handleFails =>
    have hsel : s'.pc = .selecting := by
      simp only [Driver.step] at hs
      split at hs <;> simp at hs <;> simp [← hs]
    exact .of_pc (by simp [hsel]) (by simp [hsel, DriverPc.handlingOffer])
  | remoteSet =>
    cases hpc : s.pc <;> simp only [Driver.step, hpc, Option.some.injEq, reduceCtorEq] at hs
    case settingRemote mid =>
      subst hs
      exact ⟨by simp, fun _ => h.slotFree (by simp [hpc, DriverPc.handlingOffer])⟩
  | answerCreated =>
    cases hpc : s.pc <;> simp only [Driver.step, hpc, Option.some.injEq, reduceCtorEq] at hs
    case creatingAnswer mid =>
      subst hs
      exact ⟨by simp, fun _ => h.slotFree (by simp [hpc, DriverPc.handlingOffer])⟩
  | localSet sdp =>
    cases hpc : s.pc <;> simp only [Driver.step, hpc, Option.some.injEq, reduceCtorEq] at hs
    case settingLocal mid =>
      have hroom : s.channel.hasRoom = true := by
        have hlt := h.slotFree (by simp [hpc, DriverPc.handlingOffer])
        simpa [Tokio.Mpsc.hasRoom] using hlt
      subst hs
      exact .of_pc (by simp [hroom]) (by simp [hroom, DriverPc.handlingOffer])
  | iceHandled =>
    cases hpc : s.pc <;> simp only [Driver.step, hpc, Option.some.injEq, reduceCtorEq] at hs
    case addingIce candidate =>
      subst hs
      exact .of_pc (by simp) rfl
  | candidate candidate sdpMid =>
    by_cases hg : s.gathering = true ∧ s.pc ≠ .stopped
    · simp only [Driver.step, if_pos hg, Option.some.injEq] at hs
      subst hs
      refine ⟨h.notWaiting, fun ho => ?_⟩
      have hroom : s.channel.queue.length < 31 := by
        simp only at ho
        simpa [keepsSlot, ho] using hok
      have hle := s.channel.length_queue_send_le (.candidate candidate sdpMid)
      simp only at hle ⊢
      omega
    · simp [Driver.step, hg] at hs
  | recvOut =>
    by_cases hpc : s.pc = .selecting
    · simp only [Driver.step, hpc, if_true, Option.map_eq_some_iff] at hs
      obtain ⟨r, -, rfl⟩ := hs
      exact .of_pc (by simp) rfl
    · simp [Driver.step, hpc] at hs
  | written ok =>
    cases hpc : s.pc <;> simp only [Driver.step, hpc, reduceCtorEq] at hs
    case writing signal =>
      cases ok <;> simp only [Bool.false_eq_true, if_true, if_false, Option.some.injEq] at hs <;>
        exact hs ▸ .of_pc (by simp) rfl
  | dropped =>
    cases hs
    exact .of_pc (by simp) rfl

/-- A blocked driver stays blocked until its task drops it. -/
theorem SelfBlocked.step {s s' : Driver} {a : Action} (h : s.SelfBlocked)
    (hs : s.step a = some s') : s'.SelfBlocked ∨ a = .dropped := by
  obtain ⟨hpc, hfull⟩ := h
  cases a with
  | candidate candidate sdpMid =>
    left
    by_cases hg : s.gathering = true
    · simp only [Driver.step, hg, hpc, ne_eq, reduceCtorEq, not_false_eq_true, and_self, if_true,
        Option.some.injEq] at hs
      subst hs
      refine ⟨rfl, ?_⟩
      rw [Tokio.Mpsc.queue_send_of_full _ hfull]
      exact hfull
    · simp [Driver.step, hg] at hs
  | dropped => exact .inr rfl
  | _ => simp [Driver.step, hpc] at hs

/-- With every slot in use, an offer that is handled to its end blocks the driver. -/
theorem exists_selfBlocked {s : Driver} (ho : s.pc.handlingOffer = true)
    (hfull : s.channel.queue.length = 32) :
    ∃ as s', Transition.Path driverSystem s as s' ∧ s'.SelfBlocked := by
  have hroom : s.channel.hasRoom = false := by simp [Tokio.Mpsc.hasRoom, hfull]
  have hblocked : ∀ sdp mid, (s.channel.send (.answer sdp mid)).queue.length = 32 := by
    intro sdp mid
    rw [Tokio.Mpsc.queue_send_of_full _ hfull]
    exact hfull
  -- the steps that are left until the answer is sent
  cases hpc : s.pc with
  | settingRemote mid =>
    refine ⟨[.remoteSet, .answerCreated, .localSet ""], _, .snoc (.snoc (.snoc (.nil s) trivial
      (by simp only [driverSystem, Driver.step, hpc]; rfl)) trivial rfl) trivial rfl, ?_⟩
    exact ⟨by simp [hroom], hblocked "" mid⟩
  | creatingAnswer mid =>
    refine ⟨[.answerCreated, .localSet ""], _, .snoc (.snoc (.nil s) trivial
      (by simp only [driverSystem, Driver.step, hpc]; rfl)) trivial rfl, ?_⟩
    exact ⟨by simp [hroom], hblocked "" mid⟩
  | settingLocal mid =>
    refine ⟨[.localSet ""], _, .snoc (.nil s) trivial
      (by simp only [driverSystem, Driver.step, hpc]; rfl), ?_⟩
    exact ⟨by simp [hroom], hblocked "" mid⟩
  | _ => simp [hpc, DriverPc.handlingOffer] at ho

/-- A step that takes the slot of the answer can be followed by steps that block the driver. -/
theorem exists_selfBlocked_of_step {s s' : Driver} {a : Action} (hs : s.step a = some s')
    (hok : s.keepsSlot a = false) : ∃ as s'', Transition.Path driverSystem s' as s'' ∧ s''.SelfBlocked := by
  cases a with
  | event ev =>
    cases ev with
    | offer mid =>
      by_cases hpc : s.pc = .selecting
      · simp only [Driver.step, if_pos hpc, Option.some.injEq] at hs
        subst hs
        have hle := s.channel.length_le
        exact exists_selfBlocked rfl (Nat.le_antisymm hle (by simpa [keepsSlot] using hok))
      · simp [Driver.step, hpc] at hs
    | _ => simp [keepsSlot] at hok
  | candidate candidate sdpMid =>
    by_cases hg : s.gathering = true ∧ s.pc ≠ .stopped
    · simp only [Driver.step, if_pos hg, Option.some.injEq] at hs
      subst hs
      simp only [keepsSlot, Bool.or_eq_false_iff, Bool.not_eq_false', decide_eq_false_iff_not,
        Nat.not_lt] at hok
      refine exists_selfBlocked hok.1 ?_
      by_cases hfull : s.channel.queue.length = 32
      · simp only
        rw [Tokio.Mpsc.queue_send_of_full _ hfull]
        exact hfull
      · have hle := s.channel.length_le
        have hroom : s.channel.hasRoom = true := by
          simp only [Tokio.Mpsc.hasRoom, decide_eq_true_eq]
          omega
        simp only
        rw [Tokio.Mpsc.queue_send_of_hasRoom _ hroom, List.length_append, List.length_singleton]
        omega
    · simp [Driver.step, hg] at hs
  | _ => simp [keepsSlot] at hok

end Driver

/-- As long as the slot of the answer is kept free while an offer is handled, the driver never waits
for a slot that only it could free. -/
theorem not_selfBlocked {s : Driver}
    (h : Transition.ReachableWhere driverSystem (fun s a => s.keepsSlot a = true) s) :
    ¬ s.SelfBlocked := by
  have hinv : s.Inv := h.induct .new fun _ _ _ _ hok hs hi => hi.step hok hs
  rintro ⟨hpc, -⟩
  exact hinv.notWaiting hpc

/-- An offer with two candidates gathered before its answer is sent; the answer goes out third. -/
theorem not_selfBlocked_answered : ∃ s, Transition.Reachable driverSystem s ∧
    s.sent.length = 2 ∧ s.pc = .writing (.answer "v=0" "0") ∧ ¬ s.SelfBlocked := by
  obtain ⟨s, hr, hp⟩ := Transition.exists_reachableWhere_of_runWhere driverSystem Driver.keepsSlot
    [.event (.offer "0"), .remoteSet, .answerCreated, .candidate "a" "0", .candidate "b" "0",
      .localSet "v=0", .recvOut, .written true, .recvOut, .written true, .recvOut]
    (fun s => decide (s.sent.length = 2 ∧ s.pc = .writing (.answer "v=0" "0"))) (by decide)
  have hend := of_decide_eq_true hp
  exact ⟨s, hr.reachable, hend.1, hend.2, not_selfBlocked hr⟩

/-- Thirty-two candidates are gathered before `set_local_description` returns. -/
theorem selfBlocked_of_candidates : ¬ ∀ s, Transition.Reachable driverSystem s → ¬ s.SelfBlocked := by
  intro hall
  obtain ⟨s, hr, hp⟩ := Transition.exists_reachable_of_run driverSystem
    ([.event (.offer "0"), .remoteSet, .answerCreated] ++
      List.replicate 32 (.candidate "a" "0") ++ [.localSet "v=0"])
    (fun s => decide (s.pc = .sendingAnswer ∧ s.channel.queue.length = 32)) (by decide +kernel)
  have hblocked := of_decide_eq_true hp
  exact hall s hr hblocked

end Buddy3dProxy.WebRtc
