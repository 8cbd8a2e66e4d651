import Buddy3dProxy.Supervisor.Viewers

/-!
# The session slots

`state`, `rtp_tx`, `stop` and `h264` are rewritten by `subscribe()`, the watchdogs and the teardown.
`SlotsInv` says that they agree: the state is `Connecting` exactly while one call owns the outcome of
a first connect, and the other three slots are set exactly when the state is `Streaming`.
`ChannelsInv` says who uses a broadcast channel: the call that created it until it hands it to the
watchdog it spawns, so no channel ever has a second watchdog. `FollowedInv` says that every live
subscription receives from the stored channel.
-/

namespace Buddy3dProxy.Supervisor

open Transition

namespace SubscribePc

/-- The call is between its write of `Connecting` and its write of the outcome. -/
def betweenWrites : SubscribePc → Bool
  | startConnect | connect _ _ | connectFailed _ | connected _ _ => true
  | _ => false

/-- The outcome of a first connect is the call's to write; a cancelled owner never will. -/
def owns (pc : SubscribePc) : Bool := pc.betweenWrites || pc == cancelled true

/-- The broadcast channel the call has created and not yet handed to a watchdog. -/
def tx? : SubscribePc → Option Nat
  | connect tx _ | connected tx _ | spawnWatchdog tx _ => some tx
  | _ => none

end SubscribePc

open SubscribePc

structure SlotsInv (state : State) (rtpTx stop : Option Nat) (h264 : Option Rtsp.H264Params)
    (calls : List SubscribePc) : Prop where
  owner : calls.countP owns = if state = .connecting then 1 else 0
  full : state = .streaming → rtpTx.isSome ∧ stop.isSome ∧ h264.isSome
  empty : state ≠ .streaming → rtpTx = none ∧ stop = none ∧ h264 = none

namespace SlotsInv

variable {st : State} {rtpTx stop : Option Nat} {h264 : Option Rtsp.H264Params}
  {calls : List SubscribePc} {i : Nat} {pc pc' : SubscribePc}

theorem move (h : SlotsInv st rtpTx stop h264 calls) (hi : calls[i]? = some pc)
    (ho : pc'.owns = pc.owns) : SlotsInv st rtpTx stop h264 (calls.set i pc') :=
  ⟨by rw [Pool.countP_set_eq hi ho]; exact h.owner, h.full, h.empty⟩

theorem connecting_of_owner (h : SlotsInv st rtpTx stop h264 calls) (hi : calls[i]? = some pc)
    (ho : pc.owns = true) : st = .connecting := by
  have hpos := Pool.countP_pos hi ho
  have := h.owner
  by_contra hne
  rw [if_neg hne] at this
  omega

theorem streaming_of_rtpTx (h : SlotsInv st rtpTx stop h264 calls) {c : Nat}
    (hc : rtpTx = some c) : st = .streaming := by
  by_contra hne
  have := (h.empty hne).1
  rw [hc] at this
  cases this

theorem enterConnecting (h : SlotsInv .idle rtpTx stop h264 calls)
    (hi : calls[i]? = some .lockState) :
    SlotsInv .connecting rtpTx stop h264 (calls.set i .startConnect) := by
  refine ⟨?_, fun hs => (by cases hs), fun _ => h.empty (by decide)⟩
  have := h.owner
  rw [Pool.countP_set_gain hi rfl rfl]
  simpa using this

theorem outcome {st' : State} {rtpTx' stop' : Option Nat} {h264' : Option Rtsp.H264Params}
    (h : SlotsInv st rtpTx stop h264 calls) (hi : calls[i]? = some pc) (ho : pc.owns = true)
    (ho' : pc'.owns = false) (hst : st' ≠ .connecting)
    (hfull : st' = .streaming → rtpTx'.isSome ∧ stop'.isSome ∧ h264'.isSome)
    (hempty : st' ≠ .streaming → rtpTx' = none ∧ stop' = none ∧ h264' = none) :
    SlotsInv st' rtpTx' stop' h264' (calls.set i pc') := by
  refine ⟨?_, hfull, hempty⟩
  have hlose := Pool.countP_set_lose (p := owns) hi ho ho'
  have := h.owner
  rw [if_pos (h.connecting_of_owner hi ho)] at this
  rw [if_neg hst]
  omega

end SlotsInv

def Sys.Slots (s : Sys) : Prop := SlotsInv s.state s.rtpTx s.stop s.h264 s.calls

theorem slots_new (idleTimeout : Nat) (failedRx : Option Bool) (now : Nat) :
    (Sys.new idleTimeout failedRx now).Slots :=
  ⟨rfl, fun h => (by cases h), fun _ => ⟨rfl, rfl, rfl⟩⟩

theorem no_owner_of_tearing {s : Sys} (hv : s.Viewers) (ht : .tearing ∈ s.timers) :
    s.calls.countP owns = 0 := by
  apply List.countP_eq_zero.mpr
  intro pc hpc ho
  have hpre := (hv.tearing ht).1 pc hpc
  cases pc with
  | cancelled owner =>
    cases owner with
    | true => exact absurd (hpre rfl) Bool.false_ne_true
    | false => exact absurd ho (by decide)
  | startConnect | connect | connectFailed | connected =>
    exact absurd (hpre rfl) Bool.false_ne_true
  | _ => exact absurd ho (by simp [owns, betweenWrites])

theorem slots_step {s s' : Sys} {a : Action} (hv : s.Viewers) (h : s.Slots) (hs : Step s a s') :
    s'.Slots := by
  cases hs with
  | subscribe =>
    refine ⟨?_, h.full, h.empty⟩
    show (s.calls ++ [SubscribePc.counted]).countP owns = _
    rw [List.countP_append]
    exact h.owner
  | sendAttached hi => exact h.move hi rfl
  | rejectBudget hi => exact h.move hi rfl
  | enterConnecting hi hl hs => exact SlotsInv.enterConnecting (hs ▸ h) hi
  | foundConnecting hi => exact h.move hi rfl
  | foundStreaming hi => exact h.move hi rfl
  | startConnect hi => exact h.move hi rfl
  | callConnectOk hi => exact h.move hi rfl
  | callConnectErr hi => exact h.move hi rfl
  | resetToIdle hi hl hs =>
    exact h.outcome hi rfl rfl State.noConfusion (fun he => (by cases he))
      fun _ => h.empty (by rw [hs]; decide)
  | noReset hi hl hs => exact absurd (h.connecting_of_owner hi rfl) hs
  | install hi =>
    refine h.outcome hi rfl rfl State.noConfusion (fun _ => ⟨rfl, rfl, ?_⟩)
      fun hne => absurd rfl hne
    simp [Sys.install]
  | spawnWatchdog hi => exact h.move hi rfl
  | watchSubscribe hi => exact h.move hi rfl
  | watchRead hi => exact h.move hi (by unfold Sys.watchOutcome; split <;> rfl)
  | watchChanged hi => exact h.move hi rfl
  | watchDone hi => exact h.move hi rfl
  | lockFinal hi => exact h.move hi (by unfold Sys.finalOutcome; split <;> rfl)
  | rollback hi => exact h.move hi rfl
  | returning hi => exact h.move hi rfl
  | cancelLock hi => exact h.move hi rfl
  | cancelConnect hi => exact h.move hi rfl
  | cancelFailed hi => exact h.move hi rfl
  | cancelConnected hi => exact h.move hi rfl
  | cancelWaiting hi => exact h.move hi rfl
  | cancelFinal hi => exact h.move hi rfl
  | dropSubscription hi => exact h.move hi rfl
  | play hi => exact h.move hi rfl
  | forward hi => exact h.move hi rfl
  | reinstall hw hpc hl hc =>
    have hst := h.streaming_of_rtpTx hc
    have howner := h.owner
    rw [hst] at howner
    exact ⟨howner, fun _ => ⟨(h.full hst).1, rfl, (h.full hst).2.2⟩, fun hne => absurd rfl hne⟩
  | teardown ht =>
    have howner := no_owner_of_tearing hv (List.mem_of_getElem? ht)
    exact ⟨howner, fun he => (by cases he), fun _ => ⟨rfl, rfl, rfl⟩⟩
  | _ => exact h

/-! ## Who uses a broadcast channel -/

/-- The users of the channel `c`: the watchdogs it was handed to, and the call that created it. -/
def channelUsers (c : Nat) (calls : List SubscribePc) (watchdogs : List Watchdog) : Nat :=
  watchdogs.countP (·.tx == c) + calls.countP (·.tx? == some c)

/-- The invariant of the channels created so far, of which there are `n`. -/
structure ChannelsInv (n : Nat) (calls : List SubscribePc) (watchdogs : List Watchdog) : Prop where
  unique : ∀ c, channelUsers c calls watchdogs ≤ 1
  fresh : ∀ c, n ≤ c → channelUsers c calls watchdogs = 0

namespace ChannelsInv

variable {n : Nat} {calls : List SubscribePc} {watchdogs : List Watchdog} {i w : Nat}
  {pc pc' : SubscribePc} {d d' : Watchdog}

theorem of_le {calls' : List SubscribePc} {watchdogs' : List Watchdog}
    (h : ChannelsInv n calls watchdogs)
    (hle : ∀ c, channelUsers c calls' watchdogs' ≤ channelUsers c calls watchdogs) :
    ChannelsInv n calls' watchdogs' :=
  ⟨fun c => Nat.le_trans (hle c) (h.unique c),
    fun c hc => Nat.le_zero.mp (h.fresh c hc ▸ hle c)⟩

/-- A call moves and keeps or gives up its channel. -/
theorem move (h : ChannelsInv n calls watchdogs) (hi : calls[i]? = some pc)
    (htx : pc'.tx? = pc.tx? ∨ pc'.tx? = none) : ChannelsInv n (calls.set i pc') watchdogs := by
  refine h.of_le fun c => Nat.add_le_add_left ?_ _
  have hset := Pool.countP_set (p := fun pc => pc.tx? == some c) (b := pc') hi
  rcases htx with htx | htx
  · rw [htx] at hset
    omega
  · rw [htx] at hset
    simp only [Option.none_beq_some, Bool.false_eq_true, if_false] at hset
    omega

theorem create (h : ChannelsInv n calls watchdogs) (hi : calls[i]? = some pc) (hpc : pc.tx? = none)
    (hpc' : pc'.tx? = some n) : ChannelsInv (n + 1) (calls.set i pc') watchdogs := by
  have hset : ∀ c, channelUsers c (calls.set i pc') watchdogs =
      channelUsers c calls watchdogs + if n = c then 1 else 0 := by
    intro c
    have := Pool.countP_set (p := fun pc => pc.tx? == some c) (b := pc') hi
    rw [hpc, hpc'] at this
    simp only [Option.none_beq_some, Bool.false_eq_true, if_false, Option.some_beq_some,
      beq_iff_eq] at this
    unfold channelUsers
    omega
  constructor
  · intro c
    rw [hset]
    split
    · rename_i hn
      rw [h.fresh c (by omega)]
    · exact h.unique c
  · intro c hc
    rw [hset, h.fresh c (by omega), if_neg (by omega)]

/-- A call hands its channel to the watchdog it spawns. -/
theorem handOver (h : ChannelsInv n calls watchdogs) (hi : calls[i]? = some pc)
    (hpc : pc.tx? = some d.tx) (hpc' : pc'.tx? = none) :
    ChannelsInv n (calls.set i pc') (watchdogs ++ [d]) := by
  apply h.of_le
  intro c
  have := Pool.countP_set (p := fun pc => pc.tx? == some c) (b := pc') hi
  rw [hpc, hpc'] at this
  simp only [Option.none_beq_some, Bool.false_eq_true, if_false, Option.some_beq_some,
    beq_iff_eq] at this
  unfold channelUsers
  rw [List.countP_append, List.countP_singleton]
  simp only [beq_iff_eq]
  omega

theorem moveWatchdog (h : ChannelsInv n calls watchdogs) (hw : watchdogs[w]? = some d)
    (htx : d'.tx = d.tx) : ChannelsInv n calls (watchdogs.set w d') := by
  apply h.of_le
  intro c
  unfold channelUsers
  rw [Pool.countP_set_eq hw (by rw [htx])]

theorem lt_of_call (h : ChannelsInv n calls watchdogs) (hi : calls[i]? = some pc) {c : Nat}
    (hpc : pc.tx? = some c) : c < n := by
  by_contra hn
  have hpos := Pool.countP_pos (p := fun pc => pc.tx? == some c) hi (by simp [hpc])
  have := h.fresh c (by omega)
  unfold channelUsers at this
  omega

theorem lt_of_watchdog (h : ChannelsInv n calls watchdogs) (hw : watchdogs[w]? = some d) :
    d.tx < n := by
  by_contra hn
  have hpos := Pool.countP_pos (p := fun d' => d'.tx == d.tx) hw (by simp)
  have := h.fresh d.tx (by omega)
  unfold channelUsers at this
  omega

theorem watchdog_unique (h : ChannelsInv n calls watchdogs) {w' : Nat}
    (hw : watchdogs[w]? = some d) (hw' : watchdogs[w']? = some d') (htx : d'.tx = d.tx) :
    w' = w := by
  have hu := h.unique d.tx
  unfold channelUsers at hu
  exact Pool.eq_of_countP_le_one (p := fun x => x.tx == d.tx) (by omega) hw' hw (by simp [htx])
    (by simp)

theorem ne_of_call (h : ChannelsInv n calls watchdogs) (hi : calls[i]? = some pc)
    (hw : watchdogs[w]? = some d) : pc.tx? ≠ some d.tx := by
  intro hpc
  have h1 := Pool.countP_pos (p := fun pc => pc.tx? == some d.tx) hi (by simp [hpc])
  have h2 := Pool.countP_pos (p := fun x => x.tx == d.tx) hw (by simp)
  have := h.unique d.tx
  unfold channelUsers at this
  omega

end ChannelsInv

def Sys.Channels (s : Sys) : Prop := ChannelsInv s.channels.length s.calls s.watchdogs

theorem channels_new (idleTimeout : Nat) (failedRx : Option Bool) (now : Nat) :
    (Sys.new idleTimeout failedRx now).Channels :=
  ⟨fun _ => Nat.zero_le _, fun _ _ => rfl⟩

theorem channels_step {s s' : Sys} {a : Action} (h : s.Channels) (hs : Step s a s') :
    s'.Channels := by
  cases hs with
  | subscribe =>
    apply h.of_le
    intro c
    show channelUsers c (s.calls ++ [SubscribePc.counted]) s.watchdogs ≤ _
    unfold channelUsers
    rw [List.countP_append]
    exact Nat.le_refl _
  | sendAttached hi => exact h.move hi (Or.inr rfl)
  | rejectBudget hi => exact h.move hi (Or.inr rfl)
  | enterConnecting hi => exact h.move hi (Or.inr rfl)
  | foundConnecting hi => exact h.move hi (Or.inr rfl)
  | foundStreaming hi => exact h.move hi (Or.inr rfl)
  | startConnect hi =>
    show ChannelsInv (s.channels ++ [_]).length _ _
    rw [List.length_append]
    exact h.create hi rfl rfl
  | callConnectOk hi => exact h.move hi (Or.inl rfl)
  | callConnectErr hi => exact h.move hi (Or.inr rfl)
  | resetToIdle hi => exact h.move hi (Or.inr rfl)
  | noReset hi => exact h.move hi (Or.inr rfl)
  | install hi => exact h.move hi (Or.inl rfl)
  | spawnWatchdog hi => exact h.handOver hi rfl rfl
  | watchSubscribe hi => exact h.move hi (Or.inr rfl)
  | watchRead hi =>
    exact h.move hi (Or.inr (by unfold Sys.watchOutcome; split <;> rfl))
  | watchChanged hi => exact h.move hi (Or.inr rfl)
  | watchDone hi => exact h.move hi (Or.inr rfl)
  | lockFinal hi =>
    exact h.move hi (Or.inr (by unfold Sys.finalOutcome; split <;> rfl))
  | rollback hi => exact h.move hi (Or.inr rfl)
  | returning hi => exact h.move hi (Or.inr rfl)
  | cancelLock hi => exact h.move hi (Or.inr rfl)
  | cancelConnect hi => exact h.move hi (Or.inr rfl)
  | cancelFailed hi => exact h.move hi (Or.inr rfl)
  | cancelConnected hi => exact h.move hi (Or.inr rfl)
  | cancelWaiting hi => exact h.move hi (Or.inr rfl)
  | cancelFinal hi => exact h.move hi (Or.inr rfl)
  | dropSubscription hi => exact h.move hi (Or.inr rfl)
  | play hi => exact h.move hi (Or.inr rfl)
  | forward hi => exact h.move hi (Or.inr rfl)
  | sawEnded hw => exact h.moveWatchdog hw rfl
  | sawClosed hw => exact h.moveWatchdog hw rfl
  | exitNoViewers hw => exact h.moveWatchdog hw rfl
  | startRetrying hw => exact h.moveWatchdog hw rfl
  | watchdogSleep hw => exact h.moveWatchdog hw rfl
  | wakeSame hw => exact h.moveWatchdog hw rfl
  | wakeOther hw => exact h.moveWatchdog hw rfl
  | keepRetrying hw => exact h.moveWatchdog hw rfl
  | sawFailed hw => exact h.moveWatchdog hw rfl
  | watchdogConnect hw => exact h.moveWatchdog hw rfl
  | watchdogOk hw => exact h.moveWatchdog hw rfl
  | watchdogErr hw => exact h.moveWatchdog hw rfl
  | reinstall hw => exact h.moveWatchdog hw rfl
  | discard hw => exact h.moveWatchdog hw rfl
  | rtp =>
    show ChannelsInv (s.channels.modify _ _).length _ _
    rw [List.length_modify]
    exact h
  | _ => exact h

/-! ## Whoever receives from a channel receives from the stored one -/

/-- The channel that the call knows to be stored: it has just installed it, or it receives from it. -/
def SubscribePc.storedTx? : SubscribePc → Option Nat
  | spawnWatchdog tx _ => some tx
  | live sub => some sub.rtp
  | _ => none

/-- What the calls know of the stored channel. -/
def FollowedInv (rtpTx : Option Nat) (calls : List SubscribePc) : Prop :=
  ∀ pc ∈ calls, ∀ c, pc.storedTx? = some c → rtpTx = some c

namespace FollowedInv

variable {rtpTx : Option Nat} {calls : List SubscribePc} {i : Nat} {pc' : SubscribePc}

theorem move (h : FollowedInv rtpTx calls) (hpc' : pc'.storedTx? = none) :
    FollowedInv rtpTx (calls.set i pc') :=
  Pool.forall_set h fun c hc => by rw [hpc'] at hc; cases hc

theorem none_of_empty (h : FollowedInv none calls) {pc : SubscribePc} (hpc : pc ∈ calls) :
    pc.storedTx? = none := by
  cases hst : pc.storedTx? with
  | none => rfl
  | some c => exact absurd (h pc hpc c hst) (by simp)

end FollowedInv

def Sys.Followed (s : Sys) : Prop := FollowedInv s.rtpTx s.calls

/-- A call that knows of a stored channel is counted and has been inside the mutex. -/
theorem counted_of_storedTx {pc : SubscribePc} {c : Nat} (h : pc.storedTx? = some c) :
    pc.isCounted = true ∧ pc.preLock = false := by
  cases pc with
  | spawnWatchdog | live => exact ⟨rfl, rfl⟩
  | _ => cases h

/-- While a timer tears down, no call knows of a stored channel. -/
theorem storedTx_of_tearing {s : Sys} (hv : s.Viewers) (ht : .tearing ∈ s.timers)
    {pc : SubscribePc} (hpc : pc ∈ s.calls) : pc.storedTx? = none := by
  cases hst : pc.storedTx? with
  | none => rfl
  | some c =>
    obtain ⟨hcounted, hpre⟩ := counted_of_storedTx hst
    have := (hv.tearing ht).1 pc hpc hcounted
    rw [hpre] at this
    cases this

theorem followed_step {s s' : Sys} {a : Action} (hv : s.Viewers) (hslots : s.Slots)
    (h : s.Followed) (hs : Step s a s') : s'.Followed := by
  cases hs with
  | subscribe => exact Pool.forall_append h fun c hc => by cases hc
  | sendAttached => exact h.move rfl
  | rejectBudget => exact h.move rfl
  | enterConnecting => exact h.move rfl
  | foundConnecting => exact h.move rfl
  | foundStreaming => exact h.move rfl
  | startConnect => exact h.move rfl
  | callConnectOk => exact h.move rfl
  | callConnectErr => exact h.move rfl
  | resetToIdle => exact h.move rfl
  | noReset => exact h.move rfl
  | install hi =>
    -- no channel was stored, so nobody else knows of one
    have hst := hslots.connecting_of_owner hi rfl
    have hnone : s.rtpTx = none := (hslots.empty (by rw [hst]; decide)).1
    have h' : FollowedInv none s.calls := hnone ▸ h
    refine Pool.forall_set ?_ fun c hc => hc
    intro pc hpc c hc
    rw [h'.none_of_empty hpc] at hc
    cases hc
  | spawnWatchdog => exact h.move rfl
  | watchSubscribe => exact h.move rfl
  | watchRead => exact h.move (by unfold Sys.watchOutcome; split <;> rfl)
  | watchChanged => exact h.move rfl
  | watchDone => exact h.move rfl
  | lockFinal =>
    apply Pool.forall_set h
    intro c hc
    unfold Sys.finalOutcome at hc
    split at hc
    · rename_i params tx hh264 hrtp
      exact hrtp.trans hc
    · cases hc
  | rollback => exact h.move rfl
  | returning => exact h.move rfl
  | cancelLock => exact h.move rfl
  | cancelConnect => exact h.move rfl
  | cancelFailed => exact h.move rfl
  | cancelConnected => exact h.move rfl
  | cancelWaiting => exact h.move rfl
  | cancelFinal => exact h.move rfl
  | dropSubscription => exact h.move rfl
  | play hi => exact Pool.forall_set h fun c hc => h _ (List.mem_of_getElem? hi) c hc
  | forward hi => exact Pool.forall_set h fun c hc => h _ (List.mem_of_getElem? hi) c hc
  | teardown ht =>
    intro pc hpc c hc
    rw [storedTx_of_tearing hv (List.mem_of_getElem? ht) hpc] at hc
    cases hc
  | _ => exact h

/-! ## Reachable states -/

variable {idleTimeout : Nat} {failedRx : Option Bool} {s : Sys}

theorem slots_of_reachable (h : Reachable (system idleTimeout failedRx) s) : s.Slots :=
  invariant_of_steps (slots_new _ _ _)
    (fun hr _ hp hs => slots_step (viewers_of_reachable hr.reachable) hp hs) h

theorem channels_of_reachable (h : Reachable (system idleTimeout failedRx) s) : s.Channels :=
  invariant_of_steps (channels_new _ _ _) (fun _ _ hp hs => channels_step hp hs) h

theorem followed_of_reachable (h : Reachable (system idleTimeout failedRx) s) : s.Followed :=
  invariant_of_steps (fun _ hpc => by cases hpc)
    (fun hr _ hp hs => followed_step (viewers_of_reachable hr.reachable)
      (slots_of_reachable hr.reachable) hp hs) h

/-- A running watchdog of the stored channel. -/
def Sys.isStoredWatchdog (s : Sys) (d : Watchdog) : Bool := d.pc != .exited && s.sameChannel d

/-- While no call has panicked or been cancelled, whoever owns an outcome is about to write it. -/
theorem countP_owns {calls : List SubscribePc} (h : ∀ pc ∈ calls, pc.leaked = false) :
    calls.countP owns = calls.countP betweenWrites := by
  apply List.countP_congr
  intro pc hpc
  have hleaked := h pc hpc
  cases pc with
  | cancelled => cases hleaked
  | _ => simp [owns]

/-- The slots agree with each other and with the calls: the state is `Connecting` exactly while one
call is between its write of `Connecting` and its write of the outcome, it is `Streaming` exactly
while `rtp_tx`, `stop` and `h264` are set and the three are empty otherwise, and the stored channel
has one running watchdog at most. -/
theorem slots_consistent (h : Reachable (system idleTimeout failedRx) s) (hclean : s.Clean) :
    s.calls.countP betweenWrites = (if s.state = .connecting then 1 else 0) ∧
      (s.state = .streaming ↔ s.rtpTx.isSome ∧ s.stop.isSome ∧ s.h264.isSome) ∧
      (s.state ≠ .streaming → s.rtpTx = none ∧ s.stop = none ∧ s.h264 = none) ∧
      s.watchdogs.countP s.isStoredWatchdog ≤ 1 := by
  have hslots : SlotsInv s.state s.rtpTx s.stop s.h264 s.calls := slots_of_reachable h
  refine ⟨?_, ⟨hslots.full, fun ⟨hr, _, _⟩ => ?_⟩, hslots.empty, ?_⟩
  · rw [← countP_owns hclean]
    exact hslots.owner
  · obtain ⟨c, hc⟩ := Option.isSome_iff_exists.mp hr
    exact hslots.streaming_of_rtpTx hc
  · cases hc : s.rtpTx with
    | none =>
      have hzero : s.watchdogs.countP s.isStoredWatchdog = 0 :=
        List.countP_eq_zero.mpr fun d _ => by simp [Sys.isStoredWatchdog, Sys.sameChannel, hc]
      omega
    | some c =>
      have hle : s.watchdogs.countP s.isStoredWatchdog ≤ s.watchdogs.countP (·.tx == c) := by
        apply List.countP_mono_left
        intro d _ hd
        have hsame := (Bool.and_eq_true_iff.mp hd).2
        have htx : c = d.tx := by simpa [Sys.sameChannel, hc] using hsame
        exact beq_iff_eq.mpr htx.symm
      have huniq := (channels_of_reachable h).unique c
      unfold channelUsers at huniq
      omega

/-- A second viewer waits for the first one's attempt: one call is between the two writes. -/
theorem slots_consistent_waiting : ∃ s, Reachable (system 60 none) s ∧ s.state = .connecting ∧
    s.calls.countP betweenWrites = 1 := by
  obtain ⟨s, hr, hp⟩ := exists_reachable_of_run (system 60 none)
    [.subscribe, .call 0, .call 0, .subscribe, .call 1, .call 1, .call 1, .call 1,
      .startConnect 0 stubParams]
    (fun s => decide (s.Clean ∧ s.state = .connecting)) (by decide +kernel)
  obtain ⟨hclean, hst⟩ := of_decide_eq_true hp
  have hcount := (slots_consistent hr hclean).1
  rw [hst] at hcount
  exact ⟨s, hr, hst, hcount⟩

end Buddy3dProxy.Supervisor
