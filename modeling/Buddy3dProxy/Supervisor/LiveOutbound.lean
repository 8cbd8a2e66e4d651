import Buddy3dProxy.Supervisor.Handles

/-!
# The registered outbound sender

A connect attempt registers its sender in `live_outbound` before it is known to succeed, and dropping
a stop handle spawns a task that clears the registry, whoever is registered by then. `RegisteredInv`
says that the sender of the session that is installed, or that still may be, stays registered as long
as nobody else registers or clears over it; `ClearedInv` that a sender which stays registered belongs
to a session that somebody holds, or has its clear pending.
-/

namespace Buddy3dProxy.Supervisor

open Transition

/-- The session has registered its sender and has neither failed nor ended. -/
def Session.isOpen (x : Session) : Bool :=
  (x.phase == .registered || x.phase == .ready) && x.ended == .pending

namespace Sys

variable (s : Sys)

def isOpen (j : Nat) : Bool := s.sessions[j]?.any Session.isOpen

/-- Session `j` is installed, or its holder may still install it. -/
def MayServe (j : Nat) : Prop :=
  s.stop = some j ∨ (∃ pc ∈ s.calls, pc.session? = some j) ∨
    ∃ d ∈ s.watchdogs, s.rtpTx = some d.tx ∧ d.pc.session? = some j

instance (j : Nat) : Decidable (s.MayServe j) := inferInstanceAs (Decidable (_ ∨ _ ∨ _))

/-- The condition on a step: nobody registers or clears over the sender of an open session that is
installed or may still be. -/
def keepsOutbound : Action → Bool
  | .register _ | .clear _ => s.liveOutbound.all fun j => !(s.isOpen j && decide (s.MayServe j))
  | _ => true

end Sys

/-- A step opens no session except by registering its sender. -/
theorem open_of_step {s s' : Sys} {a : Action} (hs : Step s a s') {j : Nat}
    (h : s'.isOpen j = true) : s.isOpen j = true ∨ a = .register j := by
  cases hs with
  | startConnect | watchdogConnect => exact Or.inl ((Pool.any_append rfl).symm.trans h)
  | @callConnectOk i tx k hi hc | @watchdogOk w k d hw hpc hc =>
    -- a session that becomes ready was registered and pending
    refine Or.inl (Pool.any_of_any_modify ?_ h)
    intro x hx ho
    obtain ⟨y, hy, hcan⟩ := (Option.any_eq_true _ _).mp hc
    have hxy : x = y := Option.some.inj (hx.symm.trans hy)
    obtain ⟨hphase, hended⟩ := Bool.and_eq_true_iff.mp (hxy ▸ hcan)
    exact Bool.and_eq_true_iff.mpr ⟨by rw [hphase, Bool.true_or], hended⟩
  | callConnectErr | cancelConnect | watchdogErr =>
    refine Or.inl (Pool.any_of_any_modify ?_ h)
    intro x _ ho
    cases ho
  | cancelConnected | discard =>
    refine Or.inl (Pool.any_of_any_modify ?_ h)
    intro x _ ho
    exact ho
  | install | reinstall | teardown =>
    have hsame : s.dropStored.isOpen j = s.isOpen j := s.any_dropStored fun _ => rfl
    exact Or.inl (hsame ▸ h)
  | @register k x hx hp =>
    by_cases hkj : k = j
    · exact Or.inr (hkj ▸ rfl)
    · left
      have h : (s.sessions.modify k _)[j]?.any Session.isOpen = true := h
      rw [List.getElem?_modify_ne _ _ hkj] at h
      exact h
  | sessionEnds | sessionKilled =>
    refine Or.inl (Pool.any_of_any_modify ?_ h)
    intro x _ ho
    have := (Bool.and_eq_true_iff.mp ho).2
    cases this
  | _ => exact Or.inl h

theorem mayServe_of_call {s : Sys} {i j : Nat} {pc : SubscribePc} (hi : s.calls[i]? = some pc)
    (hj : pc.session? = some j) : s.MayServe j :=
  Or.inr (Or.inl ⟨pc, List.mem_of_getElem? hi, hj⟩)

/-- What a call that moves may bring to the slot afterwards, it could bring there before, or it has
just started it. -/
theorem mayServe_of_setCall {s : Sys} {i j : Nat} {pc pc' : SubscribePc}
    (hi : s.calls[i]? = some pc)
    (h : s.stop = some j ∨ (∃ x ∈ s.calls.set i pc', x.session? = some j) ∨
      ∃ d ∈ s.watchdogs, s.rtpTx = some d.tx ∧ d.pc.session? = some j)
    (hpc' : ∀ k, pc'.session? = some k → pc.session? = some k ∨ s.sessions.length ≤ k) :
    s.MayServe j ∨ s.sessions.length ≤ j := by
  rcases h with h | ⟨x, hx, hxj⟩ | h
  · exact Or.inl (Or.inl h)
  · rcases List.mem_or_eq_of_mem_set hx with hx | rfl
    · exact Or.inl (Or.inr (Or.inl ⟨x, hx, hxj⟩))
    · exact (hpc' j hxj).imp_left (mayServe_of_call hi)
  · exact Or.inl (Or.inr (Or.inr h))

/-- The same for a watchdog. -/
theorem mayServe_of_setWatchdog {s : Sys} {w j : Nat} {d d' : Watchdog}
    (hw : s.watchdogs[w]? = some d)
    (h : s.stop = some j ∨ (∃ x ∈ s.calls, x.session? = some j) ∨
      ∃ x ∈ s.watchdogs.set w d', s.rtpTx = some x.tx ∧ x.pc.session? = some j)
    (htx : d'.tx = d.tx)
    (hd' : ∀ k, d'.pc.session? = some k → d.pc.session? = some k ∨ s.sessions.length ≤ k) :
    s.MayServe j ∨ s.sessions.length ≤ j := by
  rcases h with h | h | ⟨x, hx, hxc, hxj⟩
  · exact Or.inl (Or.inl h)
  · exact Or.inl (Or.inr (Or.inl h))
  · rcases List.mem_or_eq_of_mem_set hx with hx | rfl
    · exact Or.inl (Or.inr (Or.inr ⟨x, hx, hxc, hxj⟩))
    · rcases hd' j hxj with hdj | hnew
      · exact Or.inl (Or.inr (Or.inr ⟨d, List.mem_of_getElem? hw, htx ▸ hxc, hdj⟩))
      · exact Or.inr hnew

/-- A step lets no session be installed later that could not be before, except a new one. -/
theorem mayServe_of_step {s s' : Sys} {a : Action} (hchannels : s.Channels) (hs : Step s a s')
    {j : Nat} (h : s'.MayServe j) : s.MayServe j ∨ s.sessions.length ≤ j := by
  cases hs with
  | subscribe =>
    rcases h with h | ⟨x, hx, hxj⟩ | h
    · exact Or.inl (Or.inl h)
    · rcases List.mem_append.mp hx with hx | hx
      · exact Or.inl (Or.inr (Or.inl ⟨x, hx, hxj⟩))
      · rw [List.mem_singleton.mp hx] at hxj
        cases hxj
    · exact Or.inl (Or.inr (Or.inr h))
  | sendAttached hi | rejectBudget hi | enterConnecting hi | foundConnecting hi
  | foundStreaming hi | callConnectErr hi | resetToIdle hi | noReset hi
  | watchSubscribe hi | watchChanged hi | watchDone hi | rollback hi | returning hi
  | cancelLock hi | cancelConnect hi | cancelFailed hi | cancelConnected hi | cancelWaiting hi
  | cancelFinal hi | dropSubscription hi | play hi | forward hi =>
    exact mayServe_of_setCall hi h fun _ hk => by cases hk
  | callConnectOk hi => exact mayServe_of_setCall hi h fun _ hk => Or.inl hk
  | watchRead hi =>
    refine mayServe_of_setCall hi h ?_
    intro k hk
    unfold Sys.watchOutcome at hk
    split at hk <;> cases hk
  | lockFinal hi =>
    refine mayServe_of_setCall hi h ?_
    intro k hk
    unfold Sys.finalOutcome at hk
    split at hk <;> cases hk
  | startConnect hi =>
    exact mayServe_of_setCall hi h fun k hk => Or.inr (Nat.le_of_eq (Option.some.inj hk))
  | @install i tx k x hi =>
    rcases h with h | h | ⟨d, hd, hdc, hdj⟩
    · exact Or.inl (mayServe_of_call hi h)
    · exact mayServe_of_setCall hi (Or.inr (Or.inl h)) fun _ hk => by cases hk
    · -- the channel had no watchdog while its call held it
      obtain ⟨w, hw⟩ := List.mem_iff_getElem?.mp hd
      exact absurd hdc (hchannels.ne_of_call hi hw)
  | spawnWatchdog hi =>
    rcases h with h | h | ⟨d, hd, hdc, hdj⟩
    · exact Or.inl (Or.inl h)
    · exact mayServe_of_setCall hi (Or.inr (Or.inl h)) fun _ hk => by cases hk
    · rcases List.mem_append.mp hd with hd | hd
      · exact Or.inl (Or.inr (Or.inr ⟨d, hd, hdc, hdj⟩))
      · rw [List.mem_singleton.mp hd] at hdj
        cases hdj
  | sawEnded hw | sawClosed hw | exitNoViewers hw | startRetrying hw | watchdogSleep hw
  | wakeSame hw | wakeOther hw | keepRetrying hw | sawFailed hw | watchdogErr hw | discard hw =>
    exact mayServe_of_setWatchdog hw h rfl fun _ hk => by cases hk
  | watchdogOk hw hpc =>
    refine mayServe_of_setWatchdog hw h rfl ?_
    intro k hk
    rw [hpc]
    exact Or.inl hk
  | watchdogConnect hw =>
    exact mayServe_of_setWatchdog hw h rfl fun k hk =>
      Or.inr (Nat.le_of_eq (Option.some.inj hk))
  | @reinstall w k d hw hpc hl hc =>
    rcases h with h | h
    · refine Or.inl (Or.inr (Or.inr ⟨d, List.mem_of_getElem? hw, hc, ?_⟩))
      rw [hpc]
      exact h
    · exact mayServe_of_setWatchdog hw (Or.inr h) rfl fun _ hk => by cases hk
  | teardown =>
    rcases h with h | h | ⟨x, hx, hxc, hxj⟩
    · cases h
    · exact Or.inl (Or.inr (Or.inl h))
    · cases hxc
  | _ => exact Or.inl h

theorem liveOutbound_of_step {s s' : Sys} {a : Action} (hs : Step s a s') :
    s'.liveOutbound = s.liveOutbound ∨ (∃ k, a = .register k ∧ s'.liveOutbound = some k) ∨
      ∃ k, a = .clear k ∧ s'.liveOutbound = none := by
  cases hs with
  | @register k => exact Or.inr (Or.inl ⟨k, rfl, rfl⟩)
  | @clear k => exact Or.inr (Or.inr ⟨k, rfl, rfl⟩)
  | _ => exact Or.inl rfl

/-- The sender of an open session that is installed or may still be is the registered one. -/
def Sys.Registered (s : Sys) : Prop :=
  ∀ j, s.isOpen j = true → s.MayServe j → s.liveOutbound = some j

theorem Sys.lt_of_isOpen {s : Sys} {j : Nat} (h : s.isOpen j = true) : j < s.sessions.length := by
  obtain ⟨x, hx, -⟩ := (Option.any_eq_true _ _).mp h
  exact (List.getElem?_eq_some_iff.mp hx).1

theorem registered_step {s s' : Sys} {a : Action} (hchannels : s.Channels)
    (hok : s.keepsOutbound a = true) (h : s.Registered) (hs : Step s a s') : s'.Registered := by
  intro j hopen' hserve'
  by_cases ha : a = .register j
  · subst ha
    cases hs
    rfl
  · have hopen := (open_of_step hs hopen').resolve_right ha
    have hlt := Sys.lt_of_isOpen hopen
    have hserve := (mayServe_of_step hchannels hs hserve').resolve_right (by omega)
    have hreg := h j hopen hserve
    rcases liveOutbound_of_step hs with hsame | ⟨k, rfl, -⟩ | ⟨k, rfl, -⟩
    · rw [hsame, hreg]
    · simp [Sys.keepsOutbound, hreg, hopen, hserve] at hok
    · simp [Sys.keepsOutbound, hreg, hopen, hserve] at hok

/-! ## Clears -/

/-- Whoever is registered is running, or its clear is pending. -/
structure ClearedInv (ss : List Session) (liveOutbound : Option Nat) (clears : List Nat) : Prop where
  starting : ∀ x ∈ ss, x.phase = .starting → x.stopped = false
  registered : ∀ j, liveOutbound = some j →
    (∃ x, ss[j]? = some x ∧ x.stopped = false ∧ x.phase ≠ .starting) ∨ j ∈ clears

namespace ClearedInv

variable {ss : List Session} {liveOutbound : Option Nat} {clears clears' : List Nat} {k : Nat}
  {f : Session → Session}

/-- An entry changes that stays as far along and as much stopped as it was. -/
theorem modify (h : ClearedInv ss liveOutbound clears)
    (hf : ∀ x, ss[k]? = some x → (f x).stopped = x.stopped)
    (hstart : ∀ x, ss[k]? = some x → (f x).phase = .starting → x.phase = .starting) :
    ClearedInv (ss.modify k f) liveOutbound clears := by
  constructor
  · intro y hy hp
    obtain ⟨m, hm⟩ := List.mem_iff_getElem?.mp hy
    rw [List.getElem?_modify] at hm
    obtain ⟨x, hx, rfl⟩ := Option.map_eq_some_iff.mp hm
    split
    · rename_i hkm
      subst hkm
      rw [if_pos rfl] at hp
      rw [hf x hx]
      exact h.starting x (List.mem_of_getElem? hx) (hstart x hx hp)
    · rename_i hkm
      rw [if_neg hkm] at hp
      exact h.starting x (List.mem_of_getElem? hx) hp
  · intro j hj
    rcases h.registered j hj with ⟨x, hx, hst, hp⟩ | hmem
    · left
      by_cases hkj : k = j
      · subst hkj
        refine ⟨f x, by rw [List.getElem?_modify_eq, hx]; rfl, ?_, fun hp' => ?_⟩
        · rw [hf x hx, hst]
        · exact hp (hstart x hx hp')
      · exact ⟨x, by rw [List.getElem?_modify_ne _ _ hkj]; exact hx, hst, hp⟩
    · exact Or.inr hmem

/-- A session is stopped, and its clear is queued if it was registered. -/
theorem stop (h : ClearedInv ss liveOutbound clears)
    (hf : ∀ x, ss[k]? = some x → (f x).phase ≠ .starting) (hsub : ∀ j ∈ clears, j ∈ clears')
    (hk : ∀ x, ss[k]? = some x → x.stopped = false → x.phase ≠ .starting → k ∈ clears') :
    ClearedInv (ss.modify k f) liveOutbound clears' := by
  constructor
  · intro y hy hp
    obtain ⟨m, hm⟩ := List.mem_iff_getElem?.mp hy
    rw [List.getElem?_modify] at hm
    obtain ⟨x, hx, rfl⟩ := Option.map_eq_some_iff.mp hm
    split
    · rename_i hkm
      subst hkm
      rw [if_pos rfl] at hp
      exact absurd hp (hf x hx)
    · rename_i hkm
      rw [if_neg hkm] at hp
      exact h.starting x (List.mem_of_getElem? hx) hp
  · intro j hj
    rcases h.registered j hj with ⟨x, hx, hst, hp⟩ | hmem
    · by_cases hkj : k = j
      · subst hkj
        exact Or.inr (hk x hx hst hp)
      · exact Or.inl ⟨x, by rw [List.getElem?_modify_ne _ _ hkj]; exact hx, hst, hp⟩
    · exact Or.inr (hsub j hmem)

theorem start (h : ClearedInv ss liveOutbound clears) {tx : Nat} {params : Rtsp.H264Params} :
    ClearedInv (ss ++ [Sys.startSession tx params]) liveOutbound clears := by
  refine ⟨Pool.forall_append h.starting fun _ => rfl, ?_⟩
  intro j hj
  rcases h.registered j hj with ⟨x, hx, hrest⟩ | hmem
  · exact Or.inl ⟨x, Pool.getElem?_append_of_some hx, hrest⟩
  · exact Or.inr hmem

theorem dropHandle (h : ClearedInv ss liveOutbound clears) {tx : Nat}
    (hheld : Held ss k tx ConnectPhase.isReady) :
    ClearedInv (ss.modify k fun x => { x with stopped := true }) liveOutbound
      (clears ++ [k]) := by
  obtain ⟨y, hy, -, -, hready⟩ := hheld
  refine h.stop ?_ (fun j hj => List.mem_append_left _ hj) fun _ _ _ _ =>
    List.mem_append_right _ (List.mem_singleton_self k)
  intro x hx
  rw [Option.some.inj (hx.symm.trans hy)]
  intro hp
  have hp : y.phase = .starting := hp
  rw [hp] at hready
  cases hready

theorem endAttempt (h : ClearedInv ss liveOutbound clears) {tx : Nat} {ph : ConnectPhase}
    (hheld : Held ss k tx ConnectPhase.inFlight) (hph : ph ≠ .starting) :
    ClearedInv (ss.modify k fun x => { x with phase := ph, stopped := true }) liveOutbound
      (if ss[k]?.any (·.phase == .registered) then clears ++ [k] else clears) := by
  obtain ⟨y, hy, -, -, hflight⟩ := hheld
  refine h.stop (fun _ _ => hph) ?_ ?_
  · intro j hj
    split
    · exact List.mem_append_left _ hj
    · exact hj
  · intro x hx _ hp
    have hreg : y.phase = .registered := by
      rw [Option.some.inj (hx.symm.trans hy)] at hp
      cases hyp : y.phase with
      | starting => exact absurd hyp hp
      | registered => rfl
      | ready | failed | cancelled =>
        rw [hyp] at hflight
        cases hflight
    rw [hy, Option.any_some, hreg, if_pos (by rfl)]
    exact List.mem_append_right _ (List.mem_singleton_self k)

end ClearedInv

def Sys.Cleared (s : Sys) : Prop := ClearedInv s.sessions s.liveOutbound s.clears

theorem cleared_dropStored {s : Sys} (hsessions : s.SessionsOk) (h : s.Cleared) :
    ClearedInv s.dropStored.sessions s.liveOutbound s.dropStored.clears := by
  unfold Sys.dropStored
  cases hstop : s.stop with
  | none =>
    show ClearedInv s.sessions s.liveOutbound (s.clears ++ [])
    rw [List.append_nil]
    exact h
  | some k =>
    obtain ⟨c, -, hheld⟩ := hsessions.stored k hstop
    exact h.dropHandle hheld

theorem cleared_step {s s' : Sys} {a : Action} (hsessions : s.SessionsOk) (h : s.Cleared)
    (hs : Step s a s') : s'.Cleared := by
  have heldBy {w : Nat} {d : Watchdog} (hw : s.watchdogs[w]? = some d) :
      d.pc.HoldsOk s.sessions d.tx := hsessions.watchdog d (List.mem_of_getElem? hw)
  cases hs with
  | startConnect | watchdogConnect => exact h.start
  | callConnectOk | watchdogOk => exact h.modify (fun _ _ => rfl) fun _ _ hp => (by cases hp)
  | callConnectErr hi =>
    exact h.endAttempt (hsessions.call _ (List.mem_of_getElem? hi)) (by decide)
  | cancelConnect hi =>
    exact h.endAttempt (hsessions.call _ (List.mem_of_getElem? hi)) (by decide)
  | watchdogErr hw hpc =>
    have hheld := heldBy hw
    rw [hpc] at hheld
    exact h.endAttempt hheld (by decide)
  | cancelConnected hi => exact h.dropHandle (hsessions.call _ (List.mem_of_getElem? hi))
  | discard hw hpc =>
    have hheld := heldBy hw
    rw [hpc] at hheld
    exact h.dropHandle hheld
  | install | reinstall | teardown => exact cleared_dropStored hsessions h
  | @register k x hx hp =>
    have h' : ClearedInv (s.sessions.modify k fun x => { x with phase := .registered })
        s.liveOutbound s.clears := h.modify (fun _ _ => rfl) fun _ _ hp => (by cases hp)
    refine ⟨h'.starting, ?_⟩
    · rintro j ⟨⟩
      refine Or.inl ⟨{ x with phase := .registered }, ?_, ?_, ConnectPhase.noConfusion⟩
      · show (s.sessions.modify k _)[k]? = _
        rw [List.getElem?_modify_eq, hx]
        rfl
      · exact h.starting x (List.mem_of_getElem? hx) hp
  | sessionEnds | sessionKilled => exact h.modify (fun _ _ => rfl) fun _ _ hp => hp
  | clear => exact ⟨h.starting, fun j hj => (by cases hj)⟩
  | _ => exact h

variable {idleTimeout : Nat} {failedRx : Option Bool} {s : Sys}

theorem cleared_of_reachable (h : Reachable (system idleTimeout failedRx) s) : s.Cleared :=
  invariant_of_steps ⟨fun _ hx => (by cases hx), fun _ hj => (by cases hj)⟩
    (fun hr _ hp hs => cleared_step (sessions_of_reachable hr.reachable) hp hs) h

theorem registered_of_reachableWhere
    (h : ReachableWhere (system idleTimeout failedRx) (fun s a => s.keepsOutbound a = true) s) :
    s.Registered :=
  invariant_of_steps (fun j hj _ => by cases hj)
    (fun hr hok hp hs => registered_step (channels_of_reachable hr.reachable) hok hp hs) h

/-- Session `j` has neither ended on its own nor been killed. -/
def Sys.isAlive (s : Sys) (j : Nat) : Bool := s.sessions[j]?.any (·.ended == .pending)

/-- In every run in which nobody registers or clears over the sender of a session that is installed or
may still be, the installed session's sender is registered as long as the session is alive. With no
session installed, no connect in progress and no clear pending, no sender is registered. -/
theorem liveOutbound_installed
    (h : ReachableWhere (system idleTimeout failedRx) (fun s a => s.keepsOutbound a = true) s) :
    (∀ j, s.stop = some j → s.isAlive j = true → s.liveOutbound = some j) ∧
      (s.stop = none → (∀ pc ∈ s.calls, pc.session? = none) →
        (∀ d ∈ s.watchdogs, d.pc.session? = none) → s.clears = [] → s.liveOutbound = none) := by
  have hsessions := sessions_of_reachable h.reachable
  constructor
  · intro j hj halive
    obtain ⟨c, -, x, hx, -, -, hready⟩ := hsessions.stored j hj
    have hphase : x.phase = .ready := by
      cases hp : x.phase with
      | ready => rfl
      | starting | registered | failed | cancelled =>
        rw [hp] at hready
        cases hready
    have hopen : s.isOpen j = true := by
      simp only [Sys.isAlive, hx, Option.any_some] at halive
      simp only [Sys.isOpen, hx, Option.any_some, Session.isOpen, hphase, halive, beq_self_eq_true,
        Bool.or_true, Bool.and_true]
    exact registered_of_reachableWhere h j hopen (Or.inl hj)
  · intro hstop hcalls hwatchdogs hclears
    cases hlive : s.liveOutbound with
    | none => rfl
    | some j =>
      rcases (cleared_of_reachable h.reachable).registered j hlive with ⟨x, hx, hst, -⟩ | hmem
      · have hpos := hsessions.held j x hx hst
        have hc : s.calls.countP (·.session? == some j) = 0 :=
          List.countP_eq_zero.mpr fun pc hpc => by simp [hcalls pc hpc]
        have hw : s.watchdogs.countP (·.pc.session? == some j) = 0 :=
          List.countP_eq_zero.mpr fun d hd => by simp [hwatchdogs d hd]
        unfold holders at hpos
        rw [hc, hw, hstop, if_neg (by simp)] at hpos
        omega
      · rw [hclears] at hmem
        cases hmem

/-- Session 1 replaces session 0, whose clear is still pending. -/
theorem liveOutbound_installed_reconnected : ∃ s, Reachable (system 60 none) s ∧ s.stop = some 1 ∧
    s.clears = [0] ∧ s.liveOutbound = some 1 := by
  obtain ⟨s, hr, hp⟩ := exists_reachableWhere_of_runWhere (system 60 none) Sys.keepsOutbound
    (bringUp 0 0 ++ reconnect stubParams)
    (fun s => decide (s.stop = some 1 ∧ s.isAlive 1 = true ∧ s.clears = [0])) (by decide +kernel)
  obtain ⟨hstop, halive, hclears⟩ := of_decide_eq_true hp
  exact ⟨s, hr.reachable, hstop, hclears, (liveOutbound_installed hr).1 1 hstop halive⟩

/-- The clear of session 0 runs and unregisters the sender of session 1, which is installed and
alive. -/
theorem liveOutbound_erased : ¬ ∀ s, Reachable (system 60 none) s → ∀ j, s.stop = some j →
    s.isAlive j = true → s.liveOutbound = some j := by
  intro hall
  obtain ⟨s, hr, hp⟩ := exists_reachable_of_run (system 60 none)
    (bringUp 0 0 ++ reconnect stubParams ++ [.clear 0])
    (fun s => decide (s.stop = some 1 ∧ s.isAlive 1 = true ∧ s.liveOutbound = none))
    (by decide +kernel)
  obtain ⟨hstop, halive, hnone⟩ := of_decide_eq_true hp
  have hlive := hall s hr 1 hstop halive
  rw [hnone] at hlive
  cases hlive

end Buddy3dProxy.Supervisor
