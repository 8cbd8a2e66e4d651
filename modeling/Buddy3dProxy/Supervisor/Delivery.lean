import Buddy3dProxy.Supervisor.Calls
import Buddy3dProxy.Tokio.Receipts
import Buddy3dProxy.Transition.Observed

/-!
# What a viewer is given

A viewer reads its receiver of the broadcast channel, into which the sessions on this channel send
one after another. Along every run it is given the packets sent since its PLAY in the order they were
sent, each once, but for those it is told it has missed: across reconnects as well.
-/

namespace Buddy3dProxy.Supervisor

open Rtsp Tokio Transition

namespace Sys

variable (s : Sys)

/-- What viewer `i` is given at a step. -/
def given (i : Nat) : Action → List (Recv RtpPacket)
  | .forward k =>
    match s.calls[k]? with
    | some (.live sub) => if k = i then (s.recv sub).toList.map (·.1) else []
    | _ => []
  | _ => []

/-- Viewer `i` does not resubscribe. -/
def keepsReceiver (i : Nat) (_ : Sys) (a : Action) : Bool := a != .play i

/-- Every receiver stands within its channel. -/
def Cursors : Prop := ∀ pc ∈ s.calls, ∀ sub, pc = .live sub → sub.next ≤ (s.channelOf sub).tail

end Sys

variable {s s' : Sys} {a : Action} {i : Nat} {sub : Subscription}

/-- A channel only ever gets longer. -/
theorem channelOf_step (hs : Step s a s') (sub : Subscription) :
    (s'.channelOf sub).sent = (s.channelOf sub).sent ∨
      ∃ pkt, (s'.channelOf sub).sent = (s.channelOf sub).sent ++ [pkt] := by
  cases hs with
  | startConnect =>
    left
    show ((s.channels ++ [_])[sub.rtp]?.getD _).sent = _
    unfold Sys.channelOf
    rcases Nat.lt_trichotomy sub.rtp s.channels.length with hlt | heq | hgt
    · rw [List.getElem?_append_left hlt]
    · rw [heq, List.getElem?_append_right (Nat.le_refl _), List.getElem?_eq_none (Nat.le_refl _)]
      simp
    · rw [List.getElem?_eq_none (by simp; omega), List.getElem?_eq_none (by omega)]
  | @rtp j x pkt =>
    show ((s.channels.modify x.tx _)[sub.rtp]?.getD _).sent = _ ∨ ∃ pkt,
      ((s.channels.modify x.tx _)[sub.rtp]?.getD _).sent = _
    unfold Sys.channelOf
    rw [List.getElem?_modify]
    cases s.channels[sub.rtp]? with
    | none => exact .inl rfl
    | some b =>
      by_cases hx : x.tx = sub.rtp
      · exact .inr ⟨pkt, by simp [hx]⟩
      · exact .inl (by simp [hx])
  | _ => exact .inl rfl

theorem tail_le_of_step (hs : Step s a s') (sub : Subscription) :
    (s.channelOf sub).tail ≤ (s'.channelOf sub).tail := by
  unfold Broadcast.tail
  rcases channelOf_step hs sub with heq | ⟨pkt, heq⟩
  · rw [heq]
  · rw [heq, List.length_append]
    omega

theorem next_le_of_recv {next : Nat} {r : Recv RtpPacket} (hr : s.recv sub = some (r, next)) :
    next ≤ (s.channelOf sub).tail := by
  unfold Sys.recv Broadcast.recv at hr
  unfold Broadcast.tail
  split at hr
  · obtain ⟨-, rfl⟩ := Prod.mk.inj (Option.some.inj hr)
    omega
  · obtain ⟨v, hv, he⟩ := Option.map_eq_some_iff.mp hr
    obtain ⟨-, rfl⟩ := Prod.mk.inj he
    exact (List.getElem?_eq_some_iff.mp hv).1

/-- It is enough to look at the calls that a step moves. -/
theorem Sys.Cursors.of_calls (h : s.Cursors) (hs : Step s a s')
    (hcalls : ∀ pc ∈ s'.calls, pc ∈ s.calls ∨ ∀ sub, pc = .live sub →
      sub.next ≤ (s'.channelOf sub).tail) : s'.Cursors := by
  intro pc hpc sub hlive
  rcases hcalls pc hpc with hold | hnew
  · exact (h pc hold sub hlive).trans (tail_le_of_step hs sub)
  · exact hnew sub hlive

theorem Sys.Cursors.set (h : s.Cursors) (hs : Step s a s') {pc' : SubscribePc}
    (hcalls : s'.calls = s.calls.set i pc')
    (hpc' : ∀ sub, pc' = .live sub → sub.next ≤ (s'.channelOf sub).tail) : s'.Cursors := by
  refine h.of_calls hs fun pc hpc => ?_
  rw [hcalls] at hpc
  rcases List.mem_or_eq_of_mem_set hpc with hold | rfl
  · exact .inl hold
  · exact .inr hpc'

theorem cursors_step (h : s.Cursors) (hs : Step s a s') : s'.Cursors := by
  have hstep := hs
  cases hs with
  | subscribe =>
    refine h.of_calls hstep fun pc hpc => ?_
    rcases List.mem_append.mp hpc with hold | hnew
    · exact .inl hold
    · rw [List.mem_singleton.mp hnew]
      exact .inr fun _ hlive => SubscribePc.noConfusion hlive
  | sendAttached | rejectBudget | enterConnecting | foundConnecting | foundStreaming | startConnect
  | callConnectOk | callConnectErr | resetToIdle | noReset | install | spawnWatchdog
  | watchSubscribe | watchChanged | watchDone | rollback | returning | cancelLock | cancelConnect
  | cancelFailed | cancelConnected | cancelWaiting | cancelFinal | dropSubscription =>
    exact h.set hstep rfl fun _ hlive => SubscribePc.noConfusion hlive
  | watchRead =>
    refine h.set hstep rfl fun _ hlive => ?_
    unfold Sys.watchOutcome at hlive
    split at hlive <;> cases hlive
  | lockFinal =>
    -- a new receiver stands at the tail
    refine h.set hstep rfl fun sub hlive => ?_
    unfold Sys.finalOutcome at hlive
    split at hlive
    · obtain rfl := SubscribePc.live.inj hlive
      rename_i tx _ _
      show (s.channels[tx]?.map Broadcast.tail).getD 0 ≤ (s.channels[tx]?.getD _).tail
      cases s.channels[tx]? with
      | none => exact Nat.zero_le _
      | some b => exact Nat.le_refl _
    · cases hlive
  | play =>
    refine h.set hstep rfl fun sub' hlive => ?_
    obtain rfl := SubscribePc.live.inj hlive
    exact Nat.le_refl _
  | forward hi hr =>
    refine h.set hstep rfl fun sub' hlive => ?_
    obtain rfl := SubscribePc.live.inj hlive
    have hle := next_le_of_recv hr
    exact hle
  | _ => exact h.of_calls hstep fun pc hpc => .inl hpc

/-! ## One viewer -/

/-- A viewer with a receiver leaves, reads one entry, or stays as it is. -/
theorem viewer_step (hs : Step s a s') (hi : s.calls[i]? = some (.live sub)) (ha : a ≠ .play i) :
    s'.calls[i]? = some .dropped ∨ s.given i a = [] ∧ s'.calls[i]? = some (.live sub) ∨
      ∃ r next, s.recv sub = some (r, next) ∧ s.given i a = [r] ∧
        s'.calls[i]? = some (.live { sub with next := next }) ∧ s'.channels = s.channels := by
  by_cases hforward : a = .forward i
  · subst hforward
    cases hs with
    | @forward _ next sub₀ r hi₀ hr =>
      obtain rfl : sub₀ = sub := SubscribePc.live.inj (Option.some.inj (hi₀.symm.trans hi))
      refine .inr (.inr ⟨r, next, hr, ?_, Pool.getElem?_set_self hi, rfl⟩)
      simp [Sys.given, hi, hr]
  · have hgiven : s.given i a = [] := by
      unfold Sys.given
      split
      · rename_i k
        have hki : k ≠ i := fun he => hforward (he ▸ rfl)
        split <;> simp [hki]
      · rfl
    rcases call_of_step hs hi with ⟨hsame, -⟩ | ⟨pc', hpc', hmove⟩
    · exact .inr (.inl ⟨hgiven, hsame⟩)
    · cases hmove with
      | cancelOwner hpc => rcases hpc with ⟨_, _, h⟩ | ⟨_, h⟩ | ⟨_, _, h⟩ <;> cases h
      | cancel hpc => rcases hpc with h | ⟨_, h⟩ | h <;> cases h
      | dropSubscription => exact .inl hpc'
      | play => exact absurd rfl ha
      | forward => exact absurd rfl hforward

/-- A viewer that has left does not come back. -/
theorem dropped_step (hs : Step s a s') (hi : s.calls[i]? = some .dropped) :
    s'.calls[i]? = some .dropped := by
  rcases call_of_step hs hi with ⟨hsame, -⟩ | ⟨pc', hpc', hmove⟩
  · exact hsame
  · cases hmove with
    | cancelOwner hpc => rcases hpc with ⟨_, _, h⟩ | ⟨_, h⟩ | ⟨_, _, h⟩ <;> cases h
    | cancel hpc => rcases hpc with h | ⟨_, h⟩ | h <;> cases h

/-- The viewer has left, or it has been given `out` since it stood as in `sub`. -/
def Served (sub : Subscription) (i : Nat) (out : List (Recv RtpPacket)) (t : Sys) : Prop :=
  t.calls[i]? = some .dropped ∨ ∃ next, t.calls[i]? = some (.live { sub with next := next }) ∧
    Receipts (t.channelOf sub).sent sub.next out next

theorem served_step {out : List (Recv RtpPacket)} (h : Served sub i out s) (hs : Step s a s')
    (ha : a ≠ .play i) : Served sub i (out ++ s.given i a) s' := by
  rcases h with hdropped | ⟨next, hi, hreceipts⟩
  · exact .inl (dropped_step hs hdropped)
  · rcases viewer_step hs hi ha with hleft | ⟨hgiven, hsame⟩ | ⟨r, next', hr, hgiven, hread, hchannels⟩
    · exact .inl hleft
    · refine .inr ⟨next, hsame, ?_⟩
      rw [hgiven, List.append_nil]
      rcases channelOf_step hs sub with heq | ⟨pkt, heq⟩
      · rw [heq]
        exact hreceipts
      · rw [heq]
        exact hreceipts.send pkt
    · refine .inr ⟨next', hread, ?_⟩
      have hchannel : s'.channelOf sub = s.channelOf sub := by
        unfold Sys.channelOf
        rw [hchannels]
      rw [hgiven, hchannel]
      exact hreceipts.recv _ hr

variable {idleTimeout : Nat} {failedRx : Option Bool}

theorem cursors_of_reachable (h : Reachable (system idleTimeout failedRx) s) : s.Cursors :=
  invariant_of_steps (fun _ hpc => (by cases hpc)) (fun _ _ hp hs => cursors_step hp hs) h

theorem receipts_of_observed (h : Reachable (system idleTimeout failedRx) s)
    (hi : s.calls[i]? = some (.live sub)) {out : List (Recv RtpPacket)} {sub' : Subscription}
    (hp : Observed (system idleTimeout failedRx) (fun t a => t.keepsReceiver i a = true)
      (Sys.given · i) s out s')
    (hi' : s'.calls[i]? = some (.live sub')) :
    ∃ next, sub' = { sub with next := next } ∧
      Receipts (s'.channelOf sub).sent sub.next out next := by
  have hstart : Served sub i [] s :=
    .inr ⟨sub.next, hi, .nil (cursors_of_reachable h _ (List.mem_of_getElem? hi) sub rfl)⟩
  have hserved : Served sub i out s' := hp.induct h hstart fun _ a _ _ _ hok hs hserved =>
    served_step hserved (step_of_eq hs) (by simpa [Sys.keepsReceiver] using hok)
  rcases hserved with hdropped | ⟨next, hlive, hreceipts⟩
  · rw [hdropped] at hi'
    cases hi'
  · rw [hlive] at hi'
    exact ⟨next, (SubscribePc.live.inj (Option.some.inj hi')).symm, hreceipts⟩

/-- From any moment on, whatever else happens, the packets a viewer is given are packets that were
sent on its channel from then on, each once and in the order they were sent. With those that its lag
reports count they are as many as its receiver has passed, and without a lag report they are all. -/
theorem packets_delivered (h : Reachable (system idleTimeout failedRx) s)
    (hi : s.calls[i]? = some (.live sub)) {out : List (Recv RtpPacket)} {sub' : Subscription}
    (hp : Observed (system idleTimeout failedRx) (fun t a => t.keepsReceiver i a = true)
      (Sys.given · i) s out s')
    (hi' : s'.calls[i]? = some (.live sub')) :
    sub'.rtp = sub.rtp ∧ sub'.h264 = sub.h264 ∧
      (received out).Sublist (((s'.channelOf sub).sent.take sub'.next).drop sub.next) ∧
      (received out).length + missed out = sub'.next - sub.next ∧
      (missed out = 0 →
        received out = ((s'.channelOf sub).sent.take sub'.next).drop sub.next) := by
  obtain ⟨next, rfl, hreceipts⟩ := receipts_of_observed h hi hp hi'
  exact ⟨rfl, rfl, hreceipts.sublist, hreceipts.count, hreceipts.received_eq⟩

def numberedPacket (n : UInt16) : RtpPacket where
  header := ⟨2, false, false, false, 96, n, 0, 0, [], 0, []⟩
  payload := [1]

/-- The receiver of the first viewer, at position `next`. -/
def firstViewer (next : Nat) : Subscription := ⟨stubParams, 0, next⟩

theorem exists_given_reconnected : ∃ s s', Reachable (system 60 none) s ∧
    s.calls[0]? = some (.live (firstViewer 0)) ∧
    Observed (system 60 none) (fun t a => t.keepsReceiver 0 a = true) (Sys.given · 0) s
      [.ok (numberedPacket 7), .ok (numberedPacket 0)] s' ∧
    s'.calls[0]? = some (.live (firstViewer 2)) ∧
    (s'.channelOf (firstViewer 0)).sent = [numberedPacket 7, numberedPacket 0] := by
  obtain ⟨s, hr, hp⟩ := exists_reachable_of_run (system 60 none) (bringUp 0 0)
    (fun s : Sys => decide (s.calls[0]? = some (SubscribePc.live (firstViewer 0))) &&
      (observe (system 60 none) (Sys.keepsReceiver 0) (Sys.given · 0) s
        ([Action.rtp 0 (numberedPacket 7)] ++ reconnect stubParams ++
          [.rtp 1 (numberedPacket 0), .forward 0, .forward 0])).any
        fun x : List (Recv RtpPacket) × Sys =>
          decide (x.1 = [.ok (numberedPacket 7), .ok (numberedPacket 0)] ∧
            x.2.calls[0]? = some (SubscribePc.live (firstViewer 2)) ∧
            (x.2.channelOf (firstViewer 0)).sent = [numberedPacket 7, numberedPacket 0]))
    (by decide +kernel)
  obtain ⟨hi, hrun⟩ := Bool.and_eq_true_iff.mp hp
  obtain ⟨⟨out, s'⟩, hobserve, hseen⟩ := (Option.any_eq_true _ _).mp hrun
  obtain ⟨hout, hi', hsent⟩ := of_decide_eq_true hseen
  obtain rfl : out = _ := hout
  have hpath := observed_of_observe (.nil s) hobserve
  rw [List.nil_append] at hpath
  exact ⟨s, s', hr, of_decide_eq_true hi, hpath, hi', hsent⟩

/-- A viewer is given a packet of session 0 and, after a reconnect, a packet of session 1. -/
theorem packets_delivered_reconnected : ∃ s out s', Reachable (system 60 none) s ∧
    Observed (system 60 none) (fun t a => t.keepsReceiver 0 a = true) (Sys.given · 0) s out s' ∧
    out = [.ok (numberedPacket 7), .ok (numberedPacket 0)] ∧
    received out = ((s'.channelOf (firstViewer 0)).sent.take 2).drop 0 := by
  obtain ⟨s, s', hr, hi, hpath, hi', -⟩ := exists_given_reconnected
  obtain ⟨-, -, -, -, hall⟩ := packets_delivered hr hi hpath hi'
  exact ⟨s, _, s', hr, hpath, rfl, hall rfl⟩

end Buddy3dProxy.Supervisor
