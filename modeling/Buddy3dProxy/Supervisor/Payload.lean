import Buddy3dProxy.Supervisor.Handles

/-!
# The payload type viewers are told

The parameters a viewer gets are those of the first session of its channel, while the packets of
every later session of the channel reach it unchanged. The two agree as long as each reconnect
negotiates the payload type of the sessions before it. `negotiated` keeps the channel and the
parameters of every connect attempt, and `PayloadInv` ties packets, the `h264` cell and the live
subscriptions to it.
-/

namespace Buddy3dProxy.Supervisor

open Rtsp Tokio Transition

/-- The channel and the parameters of every connect attempt. -/
def Sys.negotiated (s : Sys) : List (Nat × H264Params) := s.sessions.map fun x => (x.tx, x.params)

def Sys.newAttempt (s : Sys) : Action → List (Nat × H264Params)
  | .startConnect _ params => [(s.channels.length, params)]
  | .watchdogConnect w params => (s.watchdogs[w]?.map fun d => (d.tx, params)).toList
  | _ => []

/-- The condition on a step: a reconnect negotiates the payload type of the sessions its channel has
had so far. -/
def Sys.keepsPayloadType (s : Sys) : Action → Bool
  | .watchdogConnect w params => s.watchdogs[w]?.all fun d =>
      s.negotiated.all fun p => p.1 != d.tx || p.2.payloadType == params.payloadType
  | _ => true

theorem negotiated_of_step {s s' : Sys} {a : Action} (hs : Step s a s') :
    s'.negotiated = s.negotiated ++ s.newAttempt a := by
  have same {ss : List Session} (h : ss.map (fun x => (x.tx, x.params)) = s.negotiated) :
      ss.map (fun x => (x.tx, x.params)) = s.negotiated ++ [] := by rw [h, List.append_nil]
  cases hs with
  | startConnect => exact List.map_append
  | watchdogConnect hw =>
    simp only [Sys.newAttempt, hw]
    exact List.map_append
  | callConnectOk | callConnectErr | cancelConnect | cancelConnected | watchdogOk | watchdogErr
  | discard | register | sessionEnds | sessionKilled =>
    exact same (Pool.map_modify_eq fun _ _ => rfl)
  | install | reinstall | teardown => exact same (s.map_dropStored fun _ => rfl)
  | _ => exact same rfl

structure PayloadInv (negotiated : List (Nat × H264Params))
    (channels : List (Broadcast RtpPacket)) (rtpTx : Option Nat) (h264 : Option H264Params)
    (calls : List SubscribePc) : Prop where
  created : ∀ p ∈ negotiated, p.1 < channels.length
  same : ∀ p ∈ negotiated, ∀ q ∈ negotiated, p.1 = q.1 → p.2.payloadType = q.2.payloadType
  sent : ∀ c b, channels[c]? = some b → ∀ pkt ∈ b.sent, pkt.header.payloadType < 128 ∧
    ∃ p ∈ negotiated, p.1 = c ∧ p.2.payloadType = pkt.header.payloadType
  cached : ∀ c params, rtpTx = some c → h264 = some params → (c, params) ∈ negotiated
  live : ∀ pc ∈ calls, ∀ sub, pc = .live sub → (sub.rtp, sub.h264) ∈ negotiated

namespace PayloadInv

variable {N N' : List (Nat × H264Params)} {channels : List (Broadcast RtpPacket)}
  {rtpTx : Option Nat} {h264 : Option H264Params} {calls : List SubscribePc} {i c : Nat}
  {pc' : SubscribePc} {params : H264Params}

theorem move (h : PayloadInv N channels rtpTx h264 calls)
    (hpc' : ∀ sub, pc' = .live sub → (sub.rtp, sub.h264) ∈ N) :
    PayloadInv N channels rtpTx h264 (calls.set i pc') :=
  ⟨h.created, h.same, h.sent, h.cached, Pool.forall_set h.live hpc'⟩

theorem empty (h : PayloadInv N channels rtpTx h264 calls) :
    PayloadInv N channels none none calls :=
  ⟨h.created, h.same, h.sent, fun _ _ hc => (by cases hc), h.live⟩

/-- A new attempt on a channel that exists, with the payload type of the attempts before it. -/
theorem attempt (h : PayloadInv N channels rtpTx h264 calls) (hc : c < channels.length)
    (hsame : ∀ p ∈ N, p.1 = c → p.2.payloadType = params.payloadType) :
    PayloadInv (N ++ [(c, params)]) channels rtpTx h264 calls := by
  refine ⟨Pool.forall_append h.created hc, ?_, ?_, ?_,
    fun pc hpc sub he => List.mem_append_left _ (h.live pc hpc sub he)⟩
  · intro p hp q hq hpq
    rcases List.mem_append.mp hp with hp | hp
    · rcases List.mem_append.mp hq with hq | hq
      · exact h.same p hp q hq hpq
      · rw [List.mem_singleton.mp hq] at hpq ⊢
        exact hsame p hp hpq
    · rw [List.mem_singleton.mp hp] at hpq ⊢
      rcases List.mem_append.mp hq with hq | hq
      · exact (hsame q hq hpq.symm).symm
      · rw [List.mem_singleton.mp hq]
  · intro k b hb pkt hpkt
    obtain ⟨hlt, p, hp, hpc⟩ := h.sent k b hb pkt hpkt
    exact ⟨hlt, p, List.mem_append_left _ hp, hpc⟩
  · intro k p hk hp
    exact List.mem_append_left _ (h.cached k p hk hp)

theorem create (h : PayloadInv N channels rtpTx h264 calls) (capacity : Nat) :
    PayloadInv N (channels ++ [.channel capacity]) rtpTx h264 calls := by
  refine ⟨?_, h.same, ?_, h.cached, h.live⟩
  · intro p hp
    have := h.created p hp
    rw [List.length_append]
    omega
  · intro c b hb pkt hpkt
    by_cases hc : c < channels.length
    · rw [List.getElem?_append_left hc] at hb
      exact h.sent c b hb pkt hpkt
    · -- nothing has been sent on the new channel
      have hmem := List.mem_of_getElem? hb
      rcases List.mem_append.mp hmem with hold | hnew
      · rw [List.getElem?_append_right (by omega)] at hb
        have hb' : b = .channel capacity := by
          have := List.mem_of_getElem? hb
          exact List.mem_singleton.mp this
        rw [hb'] at hpkt
        cases hpkt
      · rw [List.mem_singleton.mp hnew] at hpkt
        cases hpkt

theorem send (h : PayloadInv N channels rtpTx h264 calls) {pkt : RtpPacket}
    (hlt : pkt.header.payloadType < 128) (hmem : (c, params) ∈ N)
    (hpt : pkt.header.payloadType = params.payloadType) :
    PayloadInv N (channels.modify c (·.send pkt)) rtpTx h264 calls := by
  refine ⟨?_, h.same, ?_, h.cached, h.live⟩
  · intro p hp
    rw [List.length_modify]
    exact h.created p hp
  · intro k b hb x hx
    rw [List.getElem?_modify] at hb
    obtain ⟨b₀, hb₀, rfl⟩ := Option.map_eq_some_iff.mp hb
    split at hx
    · rename_i hck
      rw [Broadcast.sent_send] at hx
      rcases List.mem_append.mp hx with hx | hx
      · exact h.sent k b₀ hb₀ x hx
      · rw [List.mem_singleton.mp hx]
        exact ⟨hlt, _, hmem, hck, hpt.symm⟩
    · exact h.sent k b₀ hb₀ x hx

end PayloadInv

def Sys.Payload (s : Sys) : Prop :=
  PayloadInv s.negotiated s.channels s.rtpTx s.h264 s.calls

/-- A step that meets the condition keeps the payload types together. -/
theorem payload_step {s s' : Sys} {a : Action} (hslots : s.Slots) (hchannels : s.Channels)
    (hsessions : s.SessionsOk) (hok : s.keepsPayloadType a = true) (h : s.Payload)
    (hs : Step s a s') : s'.Payload := by
  unfold Sys.Payload
  rw [negotiated_of_step hs]
  have keep {N : List (Nat × H264Params)} {channels : List (Broadcast RtpPacket)}
      {rtpTx : Option Nat} {h264 : Option H264Params} {calls : List SubscribePc}
      (h : PayloadInv N channels rtpTx h264 calls) :
      PayloadInv (N ++ []) channels rtpTx h264 calls := by rwa [List.append_nil]
  cases hs with
  | subscribe =>
    exact keep ⟨h.created, h.same, h.sent, h.cached,
      Pool.forall_append h.live fun _ he => by cases he⟩
  | sendAttached | rejectBudget | enterConnecting | foundConnecting | foundStreaming
  | callConnectOk | callConnectErr | resetToIdle | noReset | spawnWatchdog | watchSubscribe
  | watchChanged | watchDone | rollback | returning | cancelLock | cancelConnect | cancelFailed
  | cancelConnected | cancelWaiting | cancelFinal | dropSubscription =>
    exact keep (h.move fun _ he => by cases he)
  | watchRead =>
    refine keep (h.move ?_)
    intro _ he
    unfold Sys.watchOutcome at he
    split at he <;> cases he
  | @startConnect i params hi =>
    have hlen : s.channels.length < (s.channels ++ [Broadcast.channel 256]).length := by simp
    refine ((h.create 256).attempt hlen ?_).move fun _ he => (by cases he)
    intro p hp hpc
    exact absurd (h.created p hp) (by omega)
  | @install i tx j x hi hl hx =>
    -- the cell was empty, so it is set to the parameters of this session
    have hst := hslots.connecting_of_owner hi rfl
    have hnone : s.h264 = none := (hslots.empty (by rw [hst]; decide)).2.2
    obtain ⟨y, hy, hytx, -⟩ := hsessions.call _ (List.mem_of_getElem? hi)
    have hxy : x = y := Option.some.inj (hx.symm.trans hy)
    have hmem : (tx, x.params) ∈ s.negotiated :=
      List.mem_map.mpr ⟨x, List.mem_of_getElem? hx, by rw [hxy, hytx]⟩
    have hcell : s.h264.or (some x.params) = some x.params := by rw [hnone]; rfl
    refine keep (PayloadInv.move ⟨h.created, h.same, h.sent, ?_, h.live⟩
      fun _ he => (by cases he))
    intro c p hc hp
    have hp : s.h264.or (some x.params) = some p := hp
    rw [hcell] at hp
    cases hc
    cases hp
    exact hmem
  | lockFinal =>
    refine keep (h.move ?_)
    intro sub he
    unfold Sys.finalOutcome at he
    split at he
    · rename_i params tx hparams htx
      cases he
      exact h.cached tx params htx hparams
    · cases he
  | @play i sub hi =>
    have hold := h.live _ (List.mem_of_getElem? hi) sub rfl
    refine keep (h.move ?_)
    intro sub' he
    cases he
    exact hold
  | @forward i next sub r hi =>
    have hold := h.live _ (List.mem_of_getElem? hi) sub rfl
    refine keep (h.move ?_)
    intro sub' he
    cases he
    exact hold
  | @watchdogConnect w d params hw hpc =>
    simp only [Sys.newAttempt, hw]
    apply h.attempt (hchannels.lt_of_watchdog hw)
    intro p hp hpd
    have hall : (s.negotiated.all fun p =>
        p.1 != d.tx || p.2.payloadType == params.payloadType) = true := by
      simp only [Sys.keepsPayloadType, hw, Option.all_some] at hok
      exact hok
    have hp' := List.all_eq_true.mp hall p hp
    rw [hpd, bne_self_eq_false, Bool.false_or] at hp'
    exact beq_iff_eq.mp hp'
  | teardown => exact keep h.empty
  | @rtp j x pkt hx hp hpt hlt =>
    have hmem : (x.tx, x.params) ∈ s.negotiated :=
      List.mem_map.mpr ⟨x, List.mem_of_getElem? hx, rfl⟩
    exact keep (h.send hlt hmem hpt)
  | _ => exact keep h

variable {idleTimeout : Nat} {failedRx : Option Bool} {s : Sys}

theorem payload_of_reachableWhere
    (h : ReachableWhere (system idleTimeout failedRx) (fun s a => s.keepsPayloadType a = true) s) :
    s.Payload :=
  invariant_of_steps
    ⟨fun _ hp => (by cases hp), fun _ hp => (by cases hp), fun _ _ hb => (by cases hb),
      fun _ _ hc => (by cases hc), fun _ hpc => (by cases hpc)⟩
    (fun hr hok hp hs => payload_step (slots_of_reachable hr.reachable)
      (channels_of_reachable hr.reachable) (sessions_of_reachable hr.reachable) hok hp hs) h

/-- The payload type of the next packet a subscription receives is the one its description
announces. -/
def Sys.AnnouncesNext (s : Sys) (sub : Subscription) : Prop :=
  ∀ pkt next, s.recv sub = some (.ok pkt, next) →
    ∀ name line pt, line ∈ sdpLines name sub.h264 → line.payloadType? = some pt →
      wirePayloadType (headerToBytes pkt.header ++ pkt.payload) = some pt

/-- In every run in which each reconnect negotiates the payload type of the earlier sessions of its
channel, every packet forwarded to a viewer carries the payload type announced in the description
built from its subscription. -/
theorem forwarded_payloadType
    (h : ReachableWhere (system idleTimeout failedRx) (fun s a => s.keepsPayloadType a = true) s)
    {sub : Subscription} (hsub : .live sub ∈ s.calls) : s.AnnouncesNext sub := by
  intro pkt next hrecv name line pt hline hpt
  have hpayload : PayloadInv s.negotiated s.channels s.rtpTx s.h264 s.calls :=
    payload_of_reachableWhere h
  have hmem := hpayload.live _ hsub sub rfl
  have hsent : pkt ∈ (s.channelOf sub).sent := Broadcast.mem_sent_of_recv _ hrecv
  obtain ⟨b, hb⟩ : ∃ b, s.channels[sub.rtp]? = some b :=
    ⟨_, List.getElem?_eq_getElem (hpayload.created _ hmem)⟩
  rw [Sys.channelOf, hb, Option.getD_some] at hsent
  obtain ⟨hlt, p, hp, hpc, hptype⟩ := hpayload.sent _ b hb pkt hsent
  rw [payloadType_of_mem_sdpLines hline hpt, wirePayloadType_forward, and_0x7F_of_lt hlt,
    ← hptype, hpayload.same p hp _ hmem hpc]

def stubPacket (pt : UInt8) : RtpPacket where
  header := ⟨2, false, false, false, pt, 0, 0, 0, [], 0, []⟩
  payload := []

/-- A packet of session 1 reaches the viewer of session 0 under the type announced to it. -/
theorem forwarded_payloadType_reconnected : ∃ s sub, Reachable (system 60 none) s ∧
    .live sub ∈ s.calls ∧ (s.recv sub).isSome ∧ s.AnnouncesNext sub := by
  obtain ⟨s, hr, hp⟩ := exists_reachableWhere_of_runWhere (system 60 none) Sys.keepsPayloadType
    (bringUp 0 0 ++ reconnect stubParams ++ [.rtp 1 (stubPacket 96)])
    (fun s : Sys => decide (SubscribePc.live ⟨stubParams, 0, 0⟩ ∈ s.calls) &&
      (s.recv ⟨stubParams, 0, 0⟩).isSome) (by decide +kernel)
  obtain ⟨hlive, hsome⟩ := Bool.and_eq_true_iff.mp hp
  have hlive := of_decide_eq_true hlive
  exact ⟨s, _, hr.reachable, hlive, hsome, forwarded_payloadType hr hlive⟩

/-- Session 1 negotiates the payload type 102. Its packets reach the viewer unchanged, whose
description, like that of every later viewer, still announces 96. -/
theorem forwarded_payloadType_mismatch : ¬ ∀ s, Reachable (system 60 none) s →
    ∀ sub, .live sub ∈ s.calls → s.AnnouncesNext sub := by
  intro hall
  obtain ⟨s, hr, hp⟩ := exists_reachable_of_run (system 60 none)
    (bringUp 0 0 ++ reconnect { stubParams with payloadType := 102 } ++
      [.rtp 1 (stubPacket 102)])
    (fun s : Sys => decide (SubscribePc.live ⟨stubParams, 0, 0⟩ ∈ s.calls ∧
      s.recv ⟨stubParams, 0, 0⟩ = some (.ok (stubPacket 102), 1))) (by decide +kernel)
  obtain ⟨hlive, hrecv⟩ := of_decide_eq_true hp
  have hwire := hall s hr _ hlive (stubPacket 102) 1 hrecv "Cam" (.media 96) 96 (by decide) rfl
  exact absurd hwire (by decide)

end Buddy3dProxy.Supervisor
