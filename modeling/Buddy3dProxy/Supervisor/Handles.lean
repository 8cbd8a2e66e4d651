import Buddy3dProxy.Supervisor.Slots

/-!
# Who holds a session

A connect attempt, and later the stop handle it returns, has one holder: the call or watchdog that
waits for it or brings it to its lock, and then the `stop` slot. `SessionsInv` says that no session
has two holders, that a held session has not been stopped and belongs to its holder's channel, and
that a session nobody holds has been stopped.
-/

namespace Buddy3dProxy.Supervisor

open Transition

def ConnectPhase.inFlight : ConnectPhase → Bool
  | starting | registered => true
  | _ => false

def ConnectPhase.isReady : ConnectPhase → Bool
  | ready => true
  | _ => false

/-- The session of the attempt or stop handle that the call holds. -/
def SubscribePc.session? : SubscribePc → Option Nat
  | connect _ j | connected _ j => some j
  | _ => none

/-- The session of the attempt or stop handle that the watchdog holds. -/
def WatchdogPc.session? : WatchdogPc → Option Nat
  | connecting j | connected j => some j
  | _ => none

/-- Session `j` is not stopped, runs on the channel `tx` and has come as far as `ph`. -/
def Held (ss : List Session) (j tx : Nat) (ph : ConnectPhase → Bool) : Prop :=
  ∃ x, ss[j]? = some x ∧ x.tx = tx ∧ x.stopped = false ∧ ph x.phase = true

/-- What a call holds is as its point says. -/
def SubscribePc.HoldsOk (ss : List Session) : SubscribePc → Prop
  | connect tx j => Held ss j tx ConnectPhase.inFlight
  | connected tx j => Held ss j tx ConnectPhase.isReady
  | _ => True

/-- What a watchdog of the channel `tx` holds is as its point says. -/
def WatchdogPc.HoldsOk (ss : List Session) (tx : Nat) : WatchdogPc → Prop
  | connecting j => Held ss j tx ConnectPhase.inFlight
  | connected j => Held ss j tx ConnectPhase.isReady
  | _ => True

/-- The number of holders of session `j`. -/
def holders (j : Nat) (calls : List SubscribePc) (watchdogs : List Watchdog)
    (stop : Option Nat) : Nat :=
  calls.countP (·.session? == some j) + watchdogs.countP (·.pc.session? == some j) +
    if stop = some j then 1 else 0

structure SessionsInv (ss : List Session) (calls : List SubscribePc) (watchdogs : List Watchdog)
    (rtpTx stop : Option Nat) : Prop where
  unique : ∀ j, holders j calls watchdogs stop ≤ 1
  call : ∀ pc ∈ calls, pc.HoldsOk ss
  watchdog : ∀ d ∈ watchdogs, d.pc.HoldsOk ss d.tx
  stored : ∀ j, stop = some j → ∃ c, rtpTx = some c ∧ Held ss j c ConnectPhase.isReady
  held : ∀ j x, ss[j]? = some x → x.stopped = false → 0 < holders j calls watchdogs stop
  killed : ∀ x ∈ ss, x.ended = .closed → x.stopped = true

/-! ## Held sessions -/

section Held

variable {ss : List Session} {j k tx : Nat} {ph ph' : ConnectPhase → Bool} {f : Session → Session}

theorem Held.lt (h : Held ss j tx ph) : j < ss.length := by
  obtain ⟨x, hx, -⟩ := h
  exact (List.getElem?_eq_some_iff.mp hx).1

theorem Held.append (h : Held ss j tx ph) (y : Session) : Held (ss ++ [y]) j tx ph := by
  obtain ⟨x, hx, hrest⟩ := h
  exact ⟨x, Pool.getElem?_append_of_some hx, hrest⟩

theorem Held.modify_ne (h : Held ss j tx ph) (hne : k ≠ j) : Held (ss.modify k f) j tx ph := by
  obtain ⟨x, hx, hrest⟩ := h
  exact ⟨x, by rw [List.getElem?_modify_ne _ _ hne]; exact hx, hrest⟩

theorem Held.modify_self (h : Held ss j tx ph)
    (hf : ∀ x, ss[j]? = some x → (f x).tx = x.tx ∧ (f x).stopped = x.stopped ∧
      (ph x.phase = true → ph' (f x).phase = true)) : Held (ss.modify j f) j tx ph' := by
  obtain ⟨x, hx, htx, hst, hph⟩ := h
  obtain ⟨h1, h2, h3⟩ := hf x hx
  exact ⟨f x, by rw [List.getElem?_modify_eq, hx]; rfl, h1.trans htx, h2.trans hst, h3 hph⟩

/-- An update that keeps the channel, the phase as far as `ph` sees it and the stop flag. -/
theorem Held.modify (h : Held ss j tx ph)
    (hf : ∀ x, ss[k]? = some x → (f x).tx = x.tx ∧ (f x).stopped = x.stopped ∧
      (ph x.phase = true → ph (f x).phase = true)) : Held (ss.modify k f) j tx ph := by
  by_cases hk : k = j
  · subst hk
    exact h.modify_self hf
  · exact h.modify_ne hk

theorem SubscribePc.HoldsOk.imp {ss' : List Session} {pc : SubscribePc} (h : pc.HoldsOk ss)
    (himp : ∀ j tx ph, pc.session? = some j → Held ss j tx ph → Held ss' j tx ph) :
    pc.HoldsOk ss' := by
  cases pc with
  | connect tx j => exact himp j tx _ rfl h
  | connected tx j => exact himp j tx _ rfl h
  | _ => trivial

theorem WatchdogPc.HoldsOk.imp {ss' : List Session} {pc : WatchdogPc} (h : pc.HoldsOk ss tx)
    (himp : ∀ j ph, pc.session? = some j → Held ss j tx ph → Held ss' j tx ph) :
    pc.HoldsOk ss' tx := by
  cases pc with
  | connecting j => exact himp j _ rfl h
  | connected j => exact himp j _ rfl h
  | _ => trivial

theorem SubscribePc.holdsOk_of_none {pc : SubscribePc} (h : pc.session? = none) :
    pc.HoldsOk ss := by
  cases pc with
  | connect | connected => cases h
  | _ => trivial

theorem WatchdogPc.holdsOk_of_none {pc : WatchdogPc} (h : pc.session? = none) :
    pc.HoldsOk ss tx := by
  cases pc with
  | connecting | connected => cases h
  | _ => trivial

end Held

/-! ## Counting holders -/

section Holders

variable {calls : List SubscribePc} {watchdogs : List Watchdog} {stop : Option Nat} {i j w : Nat}
  {pc pc' : SubscribePc} {d d' : Watchdog}

theorem holders_setCall (j : Nat) (watchdogs : List Watchdog) (stop : Option Nat)
    (pc' : SubscribePc) (hi : calls[i]? = some pc) :
    holders j (calls.set i pc') watchdogs stop + (if pc.session? = some j then 1 else 0) =
      holders j calls watchdogs stop + if pc'.session? = some j then 1 else 0 := by
  have := Pool.countP_set (p := fun pc => pc.session? == some j) (b := pc') hi
  simp only [beq_iff_eq] at this
  unfold holders
  omega

theorem holders_setWatchdog (j : Nat) (calls : List SubscribePc) (stop : Option Nat)
    (d' : Watchdog) (hw : watchdogs[w]? = some d) :
    holders j calls (watchdogs.set w d') stop + (if d.pc.session? = some j then 1 else 0) =
      holders j calls watchdogs stop + if d'.pc.session? = some j then 1 else 0 := by
  have := Pool.countP_set (p := fun d => d.pc.session? == some j) (b := d') hw
  simp only [beq_iff_eq] at this
  unfold holders
  omega

theorem holders_pos_of_call (hpc : pc ∈ calls) (hj : pc.session? = some j) :
    0 < holders j calls watchdogs stop := by
  have : 0 < calls.countP (·.session? == some j) :=
    List.countP_pos_iff.mpr ⟨pc, hpc, by simp [hj]⟩
  unfold holders
  omega

theorem holders_pos_of_watchdog (hd : d ∈ watchdogs) (hj : d.pc.session? = some j) :
    0 < holders j calls watchdogs stop := by
  have : 0 < watchdogs.countP (·.pc.session? == some j) :=
    List.countP_pos_iff.mpr ⟨d, hd, by simp [hj]⟩
  unfold holders
  omega

theorem holders_pos_of_stop : 0 < holders j calls watchdogs (some j) := by
  unfold holders
  rw [if_pos rfl]
  omega

end Holders

namespace SessionsInv

variable {ss : List Session} {calls calls' : List SubscribePc}
  {watchdogs watchdogs' : List Watchdog} {rtpTx rtpTx' stop stop' : Option Nat} {i j w : Nat}
  {pc pc' : SubscribePc} {d d' : Watchdog} {f : Session → Session}

/-- Nobody holds a session that does not exist yet. -/
theorem fresh (h : SessionsInv ss calls watchdogs rtpTx stop) :
    holders ss.length calls watchdogs stop = 0 := by
  have hc : calls.countP (·.session? == some ss.length) = 0 := by
    apply List.countP_eq_zero.mpr
    intro pc hpc hj
    have hok := h.call pc hpc
    cases pc with
    | connect tx j | connected tx j =>
      have hj : j = ss.length := by simpa [SubscribePc.session?] using hj
      exact absurd (Held.lt hok) (by omega)
    | _ => simp [SubscribePc.session?] at hj
  have hw : watchdogs.countP (·.pc.session? == some ss.length) = 0 := by
    apply List.countP_eq_zero.mpr
    intro d hd hj
    have hok := h.watchdog d hd
    cases hpc : d.pc with
    | connecting j | connected j =>
      rw [hpc] at hok hj
      have hj : j = ss.length := by simpa [WatchdogPc.session?] using hj
      exact absurd (Held.lt hok) (by omega)
    | _ => simp [hpc, WatchdogPc.session?] at hj
  have hs : stop ≠ some ss.length := by
    intro hs
    obtain ⟨c, -, hheld⟩ := h.stored _ hs
    exact Nat.lt_irrefl _ hheld.lt
  unfold holders
  rw [hc, hw, if_neg hs]

/-- Tasks move and hand sessions to each other. -/
theorem transfer (h : SessionsInv ss calls watchdogs rtpTx stop)
    (hh : ∀ k, holders k calls' watchdogs' stop' = holders k calls watchdogs stop)
    (hcall : ∀ pc ∈ calls', pc.HoldsOk ss) (hwatchdog : ∀ d ∈ watchdogs', d.pc.HoldsOk ss d.tx)
    (hstored : ∀ j, stop' = some j → ∃ c, rtpTx' = some c ∧ Held ss j c ConnectPhase.isReady) :
    SessionsInv ss calls' watchdogs' rtpTx' stop' :=
  ⟨fun k => hh k ▸ h.unique k, hcall, hwatchdog, hstored,
    fun k x hx hst => hh k ▸ h.held k x hx hst, h.killed⟩

theorem move (h : SessionsInv ss calls watchdogs rtpTx stop) (hi : calls[i]? = some pc)
    (hpc : pc.session? = none) (hpc' : pc'.session? = none) :
    SessionsInv ss (calls.set i pc') watchdogs rtpTx stop := by
  refine h.transfer ?_
    (Pool.forall_set h.call (SubscribePc.holdsOk_of_none hpc')) h.watchdog h.stored
  intro k
  have := holders_setCall k watchdogs stop pc' hi
  rw [hpc, hpc'] at this
  omega

theorem moveWatchdog (h : SessionsInv ss calls watchdogs rtpTx stop)
    (hw : watchdogs[w]? = some d) (hd : d.pc.session? = none) (hd' : d'.pc.session? = none) :
    SessionsInv ss calls (watchdogs.set w d') rtpTx stop := by
  refine h.transfer ?_ h.call
    (Pool.forall_set h.watchdog (WatchdogPc.holdsOk_of_none hd')) h.stored
  intro k
  have := holders_setWatchdog k calls stop d' hw
  rw [hd, hd'] at this
  omega

theorem start (h : SessionsInv ss calls watchdogs rtpTx stop) {tx : Nat}
    {params : Rtsp.H264Params}
    (hh : ∀ k, holders k calls' watchdogs' stop =
      holders k calls watchdogs stop + if ss.length = k then 1 else 0)
    (hcall : ∀ pc ∈ calls', pc ∈ calls ∨ pc = .connect tx ss.length)
    (hwatchdog : ∀ d ∈ watchdogs', d ∈ watchdogs ∨ d.tx = tx ∧ d.pc = .connecting ss.length) :
    SessionsInv (ss ++ [Sys.startSession tx params]) calls' watchdogs' rtpTx stop := by
  have hnew : Held (ss ++ [Sys.startSession tx params]) ss.length tx ConnectPhase.inFlight :=
    ⟨Sys.startSession tx params, by simp, rfl, rfl, rfl⟩
  refine ⟨?_, ?_, ?_, ?_, ?_, ?_⟩
  · intro k
    have := h.unique k
    rw [hh]
    split
    · rename_i hk
      rw [← hk, h.fresh]
    · exact this
  · intro pc hpc
    rcases hcall pc hpc with hpc | rfl
    · exact (h.call pc hpc).imp fun _ _ _ _ hheld => hheld.append _
    · exact hnew
  · intro d hd
    rcases hwatchdog d hd with hd | ⟨htx, hpc⟩
    · exact (h.watchdog d hd).imp fun _ _ _ hheld => hheld.append _
    · rw [hpc, htx]
      exact hnew
  · intro j hj
    obtain ⟨c, hc, hheld⟩ := h.stored j hj
    exact ⟨c, hc, hheld.append _⟩
  · intro k x hx hst
    rw [hh]
    by_cases hk : k < ss.length
    · rw [List.getElem?_append_left hk] at hx
      have := h.held k x hx hst
      omega
    · have hk' := (List.getElem?_eq_some_iff.mp hx).1
      rw [List.length_append, List.length_singleton] at hk'
      rw [if_pos (by omega)]
      omega
  · exact Pool.forall_append h.killed fun he => by cases he

/-- Session `j` changes without being stopped, and no task that holds it sees the difference. -/
theorem modify (h : SessionsInv ss calls watchdogs rtpTx stop)
    (hf : ∀ x, ss[j]? = some x → (f x).tx = x.tx ∧ (f x).stopped = x.stopped ∧
      (f x).phase.inFlight = x.phase.inFlight ∧ (f x).phase.isReady = x.phase.isReady)
    (hend : ∀ x, ss[j]? = some x → (f x).ended = .closed → x.stopped = true) :
    SessionsInv (ss.modify j f) calls watchdogs rtpTx stop := by
  have hin : ∀ k tx, Held ss k tx ConnectPhase.inFlight →
      Held (ss.modify j f) k tx ConnectPhase.inFlight := fun k tx hheld =>
    hheld.modify fun x hx => ⟨(hf x hx).1, (hf x hx).2.1, fun hp => (hf x hx).2.2.1 ▸ hp⟩
  have hready : ∀ k tx, Held ss k tx ConnectPhase.isReady →
      Held (ss.modify j f) k tx ConnectPhase.isReady := fun k tx hheld =>
    hheld.modify fun x hx => ⟨(hf x hx).1, (hf x hx).2.1, fun hp => (hf x hx).2.2.2 ▸ hp⟩
  refine ⟨h.unique, ?_, ?_, ?_, ?_, ?_⟩
  · intro pc hpc
    have hok := h.call pc hpc
    cases pc with
    | connect tx k => exact hin k tx hok
    | connected tx k => exact hready k tx hok
    | _ => trivial
  · intro d hd
    have hok := h.watchdog d hd
    cases hpc : d.pc with
    | connecting k => rw [hpc] at hok; exact hin k d.tx hok
    | connected k => rw [hpc] at hok; exact hready k d.tx hok
    | _ => trivial
  · intro k hk
    obtain ⟨c, hc, hheld⟩ := h.stored k hk
    exact ⟨c, hc, hready k c hheld⟩
  · intro k x hx hst
    rw [List.getElem?_modify] at hx
    obtain ⟨y, hy, rfl⟩ := Option.map_eq_some_iff.mp hx
    refine h.held k y hy ?_
    split at hst
    · rename_i hkj
      subst hkj
      rw [← (hf y hy).2.1]
      exact hst
    · exact hst
  · intro x hx he
    obtain ⟨k, hk⟩ := List.mem_iff_getElem?.mp hx
    rw [List.getElem?_modify] at hk
    obtain ⟨y, hy, rfl⟩ := Option.map_eq_some_iff.mp hk
    split at he
    · rename_i hkj
      subst hkj
      rw [if_pos rfl, (hf y hy).2.1]
      exact hend y hy he
    · rename_i hkj
      rw [if_neg hkj]
      exact h.killed y (List.mem_of_getElem? hy) he

/-- The holder of session `j` gives it up, and the session is stopped. -/
theorem release (h : SessionsInv ss calls watchdogs rtpTx stop)
    (hh : ∀ k, holders k calls' watchdogs' stop' + (if j = k then 1 else 0) =
      holders k calls watchdogs stop)
    (hcall : ∀ pc ∈ calls', pc.HoldsOk ss) (hwatchdog : ∀ d ∈ watchdogs', d.pc.HoldsOk ss d.tx)
    (hstored : ∀ j, stop' = some j → ∃ c, rtpTx' = some c ∧ Held ss j c ConnectPhase.isReady)
    (hf : ∀ x, (f x).stopped = true) :
    SessionsInv (ss.modify j f) calls' watchdogs' rtpTx' stop' := by
  have hj : holders j calls' watchdogs' stop' = 0 := by
    have h1 := hh j
    have h2 := h.unique j
    rw [if_pos rfl] at h1
    omega
  have hne : ∀ k, 0 < holders k calls' watchdogs' stop' → j ≠ k := by
    rintro k hk rfl
    omega
  refine ⟨?_, ?_, ?_, ?_, ?_, ?_⟩
  · intro k
    have h1 := hh k
    have h2 := h.unique k
    omega
  · intro pc hpc
    exact (hcall pc hpc).imp fun k _ _ hk hheld =>
      hheld.modify_ne (hne k (holders_pos_of_call hpc hk))
  · intro d hd
    exact (hwatchdog d hd).imp fun k _ hk hheld =>
      hheld.modify_ne (hne k (holders_pos_of_watchdog hd hk))
  · intro k hk
    obtain ⟨c, hc, hheld⟩ := hstored k hk
    exact ⟨c, hc, hheld.modify_ne (hne k (hk ▸ holders_pos_of_stop))⟩
  · intro k x hx hst
    rw [List.getElem?_modify] at hx
    obtain ⟨y, hy, rfl⟩ := Option.map_eq_some_iff.mp hx
    by_cases hjk : j = k
    · rw [if_pos hjk, hf] at hst
      cases hst
    · rw [if_neg hjk] at hst
      have h1 := hh k
      have h2 := h.held k y hy hst
      rw [if_neg hjk] at h1
      omega
  · intro x hx he
    obtain ⟨k, hk⟩ := List.mem_iff_getElem?.mp hx
    rw [List.getElem?_modify] at hk
    obtain ⟨y, hy, rfl⟩ := Option.map_eq_some_iff.mp hk
    by_cases hjk : j = k
    · rw [if_pos hjk, hf]
    · rw [if_neg hjk] at he ⊢
      exact h.killed y (List.mem_of_getElem? hy) he

theorem releaseCall (h : SessionsInv ss calls watchdogs rtpTx stop) (hi : calls[i]? = some pc)
    (hpc : pc.session? = some j) (hpc' : pc'.session? = none) (hf : ∀ x, (f x).stopped = true) :
    SessionsInv (ss.modify j f) (calls.set i pc') watchdogs rtpTx stop := by
  refine h.release ?_
    (Pool.forall_set h.call (SubscribePc.holdsOk_of_none hpc')) h.watchdog h.stored hf
  intro k
  have := holders_setCall k watchdogs stop pc' hi
  rw [hpc, hpc'] at this
  simpa using this

theorem releaseWatchdog (h : SessionsInv ss calls watchdogs rtpTx stop)
    (hw : watchdogs[w]? = some d) (hd : d.pc.session? = some j) (hd' : d'.pc.session? = none)
    (hf : ∀ x, (f x).stopped = true) :
    SessionsInv (ss.modify j f) calls (watchdogs.set w d') rtpTx stop := by
  refine h.release ?_ h.call
    (Pool.forall_set h.watchdog (WatchdogPc.holdsOk_of_none hd')) h.stored hf
  intro k
  have := holders_setWatchdog k calls stop d' hw
  rw [hd, hd'] at this
  simpa using this

/-- The owner of a first connect installs its session in the empty slots. -/
theorem install (h : SessionsInv ss calls watchdogs rtpTx none) {tx : Nat}
    (hi : calls[i]? = some (.connected tx j)) :
    SessionsInv ss (calls.set i (.spawnWatchdog tx j)) watchdogs (some tx) (some j) := by
  refine h.transfer ?_ (Pool.forall_set h.call trivial) h.watchdog ?_
  · intro k
    have := holders_setCall k watchdogs none (.spawnWatchdog tx j) hi
    unfold holders at this ⊢
    simp only [SubscribePc.session?, Option.some.injEq, reduceCtorEq, if_false] at this ⊢
    omega
  · rintro k ⟨⟩
    exact ⟨tx, rfl, h.call _ (List.mem_of_getElem? hi)⟩

/-- A watchdog installs its session in place of the stored one, which is stopped. -/
theorem reinstall (h : SessionsInv ss calls watchdogs rtpTx (some j)) {k : Nat}
    (hw : watchdogs[w]? = some d) (hd : d.pc = .connected k) (hd' : d'.pc.session? = none)
    (hc : rtpTx = some d.tx) (hf : ∀ x, (f x).stopped = true) :
    SessionsInv (ss.modify j f) calls (watchdogs.set w d') rtpTx (some k) := by
  have hheld : d.pc.HoldsOk ss d.tx := h.watchdog d (List.mem_of_getElem? hw)
  rw [hd] at hheld
  refine h.release ?_ h.call (Pool.forall_set h.watchdog (WatchdogPc.holdsOk_of_none hd')) ?_ hf
  · intro m
    have := holders_setWatchdog m calls (some j) d' hw
    rw [hd, hd'] at this
    unfold holders at this ⊢
    simp only [WatchdogPc.session?, Option.some.injEq, reduceCtorEq, if_false] at this ⊢
    omega
  · rintro m ⟨⟩
    exact ⟨d.tx, hc, hheld⟩

theorem teardown (h : SessionsInv ss calls watchdogs rtpTx (some j))
    (hf : ∀ x, (f x).stopped = true) :
    SessionsInv (ss.modify j f) calls watchdogs none none := by
  refine h.release ?_ h.call h.watchdog (fun _ hk => (by cases hk)) hf
  intro m
  unfold holders
  simp only [Option.some.injEq, reduceCtorEq, if_false]
  omega

/-- The call that holds a session is its only holder. -/
theorem sole_call (h : SessionsInv ss calls watchdogs rtpTx stop) (hi : calls[i]? = some pc)
    (hj : pc.session? = some j) :
    (∀ k x, k ≠ i → calls[k]? = some x → x.session? ≠ some j) ∧
      (∀ d ∈ watchdogs, d.pc.session? ≠ some j) ∧ stop ≠ some j := by
  have hu := h.unique j
  have hpos := Pool.countP_pos (p := fun pc => pc.session? == some j) hi (by simp [hj])
  unfold holders at hu
  refine ⟨fun k x hk hx hxj => hk ?_, ?_, ?_⟩
  · exact Pool.eq_of_countP_le_one (p := fun pc => pc.session? == some j) (by omega) hx hi
      (by simp [hxj]) (by simp [hj])
  · intro d hd hdj
    have : 0 < watchdogs.countP (·.pc.session? == some j) :=
      List.countP_pos_iff.mpr ⟨d, hd, by simp [hdj]⟩
    omega
  · intro hs
    rw [if_pos hs] at hu
    omega

theorem sole_watchdog (h : SessionsInv ss calls watchdogs rtpTx stop)
    (hw : watchdogs[w]? = some d) (hj : d.pc.session? = some j) :
    (∀ pc ∈ calls, pc.session? ≠ some j) ∧
      (∀ k x, k ≠ w → watchdogs[k]? = some x → x.pc.session? ≠ some j) ∧ stop ≠ some j := by
  have hu := h.unique j
  have hpos := Pool.countP_pos (p := fun d => d.pc.session? == some j) hw (by simp [hj])
  unfold holders at hu
  refine ⟨?_, fun k x hk hx hxj => hk ?_, ?_⟩
  · intro pc hpc hpcj
    have : 0 < calls.countP (·.session? == some j) :=
      List.countP_pos_iff.mpr ⟨pc, hpc, by simp [hpcj]⟩
    omega
  · exact Pool.eq_of_countP_le_one (p := fun d => d.pc.session? == some j) (by omega) hx hw
      (by simp [hxj]) (by simp [hj])
  · intro hs
    rw [if_pos hs] at hu
    omega

/-- The attempt `j` succeeds: its holder now holds the stop handle. -/
theorem ready (h : SessionsInv ss calls watchdogs rtpTx stop)
    (hh : ∀ k, holders k calls' watchdogs' stop = holders k calls watchdogs stop)
    (hcall : ∀ pc ∈ calls', pc.HoldsOk ss ∧ pc.session? ≠ some j ∨
      ∃ tx, pc = .connected tx j ∧ Held ss j tx ConnectPhase.inFlight)
    (hwatchdog : ∀ d ∈ watchdogs', d.pc.HoldsOk ss d.tx ∧ d.pc.session? ≠ some j ∨
      d.pc = .connected j ∧ Held ss j d.tx ConnectPhase.inFlight)
    (hstop : stop ≠ some j) :
    SessionsInv (ss.modify j fun x => { x with phase := .ready }) calls' watchdogs' rtpTx stop := by
  have hself : ∀ tx, Held ss j tx ConnectPhase.inFlight →
      Held (ss.modify j fun x => { x with phase := .ready }) j tx ConnectPhase.isReady :=
    fun tx hheld => hheld.modify_self fun _ _ => ⟨rfl, rfl, fun _ => rfl⟩
  refine ⟨fun k => hh k ▸ h.unique k, ?_, ?_, ?_, ?_, ?_⟩
  · intro pc hpc
    rcases hcall pc hpc with ⟨hok, hne⟩ | ⟨tx, rfl, hheld⟩
    · exact hok.imp fun k _ _ hk hheld => hheld.modify_ne fun hjk => hne (hjk ▸ hk)
    · exact hself tx hheld
  · intro d hd
    rcases hwatchdog d hd with ⟨hok, hne⟩ | ⟨hpc, hheld⟩
    · exact hok.imp fun k _ hk hheld => hheld.modify_ne fun hjk => hne (hjk ▸ hk)
    · rw [hpc]
      exact hself d.tx hheld
  · intro k hk
    obtain ⟨c, hc, hheld⟩ := h.stored k hk
    exact ⟨c, hc, hheld.modify_ne fun hjk => hstop (hjk ▸ hk)⟩
  · intro k x hx hst
    rw [List.getElem?_modify] at hx
    obtain ⟨y, hy, rfl⟩ := Option.map_eq_some_iff.mp hx
    rw [hh]
    refine h.held k y hy ?_
    split at hst <;> exact hst
  · intro x hx he
    obtain ⟨k, hk⟩ := List.mem_iff_getElem?.mp hx
    rw [List.getElem?_modify] at hk
    obtain ⟨y, hy, rfl⟩ := Option.map_eq_some_iff.mp hk
    have := h.killed y (List.mem_of_getElem? hy)
    split at he
    · rename_i hjk
      rw [if_pos hjk]
      exact this he
    · rename_i hjk
      rw [if_neg hjk]
      exact this he

theorem callReady (h : SessionsInv ss calls watchdogs rtpTx stop) {tx : Nat}
    (hi : calls[i]? = some (.connect tx j)) :
    SessionsInv (ss.modify j fun x => { x with phase := .ready }) (calls.set i (.connected tx j))
      watchdogs rtpTx stop := by
  obtain ⟨hcalls, hwatchdogs, hstop⟩ := h.sole_call hi rfl
  refine h.ready ?_ ?_ ?_ hstop
  · intro k
    have := holders_setCall k watchdogs stop (.connected tx j) hi
    simp only [SubscribePc.session?, Option.some.injEq] at this
    omega
  · intro pc hpc
    rcases Pool.mem_set_cases hpc with rfl | ⟨k, hk, hx⟩
    · exact Or.inr ⟨tx, rfl, h.call _ (List.mem_of_getElem? hi)⟩
    · exact Or.inl ⟨h.call _ (List.mem_of_getElem? hx), hcalls k pc hk hx⟩
  · intro d hd
    exact Or.inl ⟨h.watchdog d hd, hwatchdogs d hd⟩

theorem watchdogReady (h : SessionsInv ss calls watchdogs rtpTx stop)
    (hw : watchdogs[w]? = some d) (hd : d.pc = .connecting j) :
    SessionsInv (ss.modify j fun x => { x with phase := .ready }) calls
      (watchdogs.set w { d with pc := .connected j }) rtpTx stop := by
  have hj : d.pc.session? = some j := by rw [hd]; rfl
  have hheld : d.pc.HoldsOk ss d.tx := h.watchdog d (List.mem_of_getElem? hw)
  rw [hd] at hheld
  obtain ⟨hcalls, hwatchdogs, hstop⟩ := h.sole_watchdog hw hj
  refine h.ready ?_ ?_ ?_ hstop
  · intro k
    have := holders_setWatchdog k calls stop { d with pc := .connected j } hw
    rw [hj] at this
    simp only [WatchdogPc.session?, Option.some.injEq] at this
    omega
  · intro pc hpc
    exact Or.inl ⟨h.call pc hpc, hcalls pc hpc⟩
  · intro x hx
    rcases Pool.mem_set_cases hx with rfl | ⟨k, hk, hx⟩
    · exact Or.inr ⟨rfl, hheld⟩
    · exact Or.inl ⟨h.watchdog x (List.mem_of_getElem? hx), hwatchdogs k x hk hx⟩

end SessionsInv

def Sys.SessionsOk (s : Sys) : Prop :=
  SessionsInv s.sessions s.calls s.watchdogs s.rtpTx s.stop

theorem sessions_new (idleTimeout : Nat) (failedRx : Option Bool) (now : Nat) :
    (Sys.new idleTimeout failedRx now).SessionsOk where
  unique _ := Nat.zero_le _
  call pc h := by cases h
  watchdog d h := by cases h
  stored j h := by cases h
  held j x h := by cases h
  killed x h := by cases h

theorem sessions_step {s s' : Sys} {a : Action} (hslots : s.Slots) (h : s.SessionsOk)
    (hs : Step s a s') : s'.SessionsOk := by
  cases hs with
  | subscribe =>
    refine h.transfer ?_ (Pool.forall_append h.call trivial) h.watchdog h.stored
    intro k
    show holders k (s.calls ++ [SubscribePc.counted]) s.watchdogs s.stop = _
    unfold holders
    rw [List.countP_append]
    rfl
  | sendAttached hi => exact h.move hi rfl rfl
  | rejectBudget hi => exact h.move hi rfl rfl
  | enterConnecting hi => exact h.move hi rfl rfl
  | foundConnecting hi => exact h.move hi rfl rfl
  | foundStreaming hi => exact h.move hi rfl rfl
  | startConnect hi =>
    refine h.start ?_ ?_ fun d hd => Or.inl hd
    · intro k
      have := holders_setCall k s.watchdogs s.stop (.connect s.channels.length s.sessions.length) hi
      simp only [SubscribePc.session?, Option.some.injEq, reduceCtorEq, if_false,
        Nat.add_zero] at this
      exact this
    · intro pc hpc
      exact (List.mem_or_eq_of_mem_set hpc).imp id id
  | callConnectOk hi => exact h.callReady hi
  | callConnectErr hi => exact h.releaseCall hi rfl rfl fun _ => rfl
  | resetToIdle hi => exact h.move hi rfl rfl
  | noReset hi => exact h.move hi rfl rfl
  | @install i tx j x hi =>
    have hst := hslots.connecting_of_owner hi rfl
    have hstop : s.stop = none := (hslots.empty (by rw [hst]; decide)).2.1
    have h' : SessionsInv s.sessions s.calls s.watchdogs s.rtpTx none := hstop ▸ h
    show SessionsInv (s.stop.elim s.sessions _) (s.calls.set i _) s.watchdogs (some tx) (some j)
    rw [hstop]
    exact h'.install hi
  | spawnWatchdog hi =>
    refine h.transfer ?_ (Pool.forall_set h.call trivial)
      (Pool.forall_append h.watchdog trivial) h.stored
    intro k
    have := holders_setCall k s.watchdogs s.stop .lockFinal hi
    simp only [SubscribePc.session?, reduceCtorEq, if_false, Nat.add_zero] at this
    rw [← this]
    show holders k (s.calls.set _ _) (s.watchdogs ++ [_]) s.stop = _
    unfold holders
    rw [List.countP_append]
    rfl
  | watchSubscribe hi => exact h.move hi rfl rfl
  | watchRead hi => exact h.move hi rfl (by unfold Sys.watchOutcome; split <;> rfl)
  | watchChanged hi => exact h.move hi rfl rfl
  | watchDone hi => exact h.move hi rfl rfl
  | lockFinal hi => exact h.move hi rfl (by unfold Sys.finalOutcome; split <;> rfl)
  | rollback hi => exact h.move hi rfl rfl
  | returning hi => exact h.move hi rfl rfl
  | cancelLock hi => exact h.move hi rfl rfl
  | cancelConnect hi => exact h.releaseCall hi rfl rfl fun _ => rfl
  | cancelFailed hi => exact h.move hi rfl rfl
  | cancelConnected hi => exact h.releaseCall hi rfl rfl fun _ => rfl
  | cancelWaiting hi => exact h.move hi rfl rfl
  | cancelFinal hi => exact h.move hi rfl rfl
  | dropSubscription hi => exact h.move hi rfl rfl
  | play hi => exact h.move hi rfl rfl
  | forward hi => exact h.move hi rfl rfl
  | sawEnded hw hpc => exact h.moveWatchdog hw (by rw [hpc]; rfl) rfl
  | sawClosed hw hpc => exact h.moveWatchdog hw (by rw [hpc]; rfl) rfl
  | exitNoViewers hw hpc =>
    exact h.moveWatchdog hw (by rcases hpc with hpc | hpc <;> rw [hpc] <;> rfl) rfl
  | startRetrying hw hpc => exact h.moveWatchdog hw (by rw [hpc]; rfl) rfl
  | watchdogSleep hw hpc => exact h.moveWatchdog hw (by rw [hpc]; rfl) rfl
  | wakeSame hw hpc => exact h.moveWatchdog hw (by rw [hpc]; rfl) rfl
  | wakeOther hw hpc => exact h.moveWatchdog hw (by rw [hpc]; rfl) rfl
  | keepRetrying hw hpc => exact h.moveWatchdog hw (by rw [hpc]; rfl) rfl
  | sawFailed hw hpc => exact h.moveWatchdog hw (by rw [hpc]; rfl) rfl
  | @watchdogConnect w d params hw hpc =>
    refine h.start ?_ (fun pc hpc => Or.inl hpc) ?_
    · intro k
      have := holders_setWatchdog k s.calls s.stop { d with pc := .connecting s.sessions.length } hw
      rw [hpc] at this
      simp only [WatchdogPc.session?, Option.some.injEq, reduceCtorEq, if_false,
        Nat.add_zero] at this
      exact this
    · intro d hd
      refine (List.mem_or_eq_of_mem_set hd).imp id fun he => ?_
      subst he
      exact ⟨rfl, rfl⟩
  | watchdogOk hw hpc => exact h.watchdogReady hw hpc
  | watchdogErr hw hpc => exact h.releaseWatchdog hw (by rw [hpc]; rfl) rfl fun _ => rfl
  | @reinstall w k d hw hpc hl hc =>
    have hst := hslots.streaming_of_rtpTx hc
    obtain ⟨j, hj⟩ := Option.isSome_iff_exists.mp (hslots.full hst).2.1
    have h' : SessionsInv s.sessions s.calls s.watchdogs s.rtpTx (some j) := hj ▸ h
    show SessionsInv (s.stop.elim s.sessions _) s.calls (s.watchdogs.set w _) s.rtpTx (some k)
    rw [hj]
    exact h'.reinstall hw hpc rfl hc fun _ => rfl
  | discard hw hpc => exact h.releaseWatchdog hw (by rw [hpc]; rfl) rfl fun _ => rfl
  | teardown ht =>
    show SessionsInv (s.stop.elim s.sessions _) s.calls s.watchdogs none none
    cases hstop : s.stop with
    | none =>
      have h' : SessionsInv s.sessions s.calls s.watchdogs s.rtpTx none := hstop ▸ h
      exact h'.transfer (fun _ => rfl) h'.call h'.watchdog fun _ hk => (by cases hk)
    | some j =>
      have h' : SessionsInv s.sessions s.calls s.watchdogs s.rtpTx (some j) := hstop ▸ h
      exact h'.teardown fun _ => rfl
  | @register j x hx hp =>
    refine h.modify ?_ fun y hy he => h.killed y (List.mem_of_getElem? hy) he
    intro y hy
    have hxy : x = y := Option.some.inj (hx.symm.trans hy)
    subst hxy
    refine ⟨rfl, rfl, ?_, ?_⟩ <;> rw [hp] <;> rfl
  | sessionEnds =>
    exact h.modify (fun _ _ => ⟨rfl, rfl, rfl, rfl⟩) fun _ _ he => by cases he
  | @sessionKilled j x hx hp =>
    refine h.modify (fun _ _ => ⟨rfl, rfl, rfl, rfl⟩) ?_
    intro y hy _
    rw [← Option.some.inj (hx.symm.trans hy)]
    exact hp
  | _ => exact h

theorem sessions_of_reachable {idleTimeout : Nat} {failedRx : Option Bool} {s : Sys}
    (h : Reachable (system idleTimeout failedRx) s) : s.SessionsOk :=
  invariant_of_steps (sessions_new _ _ _)
    (fun hr _ hp hs => sessions_step (slots_of_reachable hr.reachable) hp hs) h

end Buddy3dProxy.Supervisor
