import Buddy3dProxy.Supervisor.Waiters

/-!
# What a waiting call returns

A call that finds `Connecting` waits for the attempt of one other call, its owner. As long as waiting
calls read the published state from the watch, the call fails only after its owner has, and once the
owner has installed its session the call is never blocked and returns `Ok` after at most four more
steps of its own.
-/

namespace Buddy3dProxy.Supervisor

open Tokio Transition

/-- The outcome of the attempt that a call owned. -/
inductive Attempt where
  | pending
  | failed
  | succeeded
  deriving DecidableEq, Repr

namespace SubscribePc

/-- How far the attempt of a call has come that owned one: it has failed once the call is past its
reset of the state, and it has succeeded once the session is installed. -/
def attempt? : SubscribePc → Option Attempt
  | startConnect | connect _ _ | connectFailed _ | connected _ _ | cancelled true => some .pending
  | rollback .connectFailed _ | returning .connectFailed _ | failed _ => some .failed
  | spawnWatchdog _ _ | lockFinal | live _ | dropped | panicked | cancelled false =>
    some .succeeded
  | _ => none

/-- The number of steps to `Ok` that a waiting call has left after the owner's success. -/
def remaining : SubscribePc → Nat
  | watchSubscribe | watchChanged _ => 4
  | watchRead => 3
  | watchDone => 2
  | lockFinal => 1
  | _ => 0

end SubscribePc

open SubscribePc

theorem owns_iff_pending {pc : SubscribePc} : pc.owns = true ↔ pc.attempt? = some .pending := by
  cases pc with
  | rollback x e | returning x e => cases x <;> simp [owns, betweenWrites, attempt?]
  | cancelled owner => cases owner <;> simp [owns, betweenWrites, attempt?]
  | _ => simp [owns, betweenWrites, attempt?]

theorem counted_of_remaining {pc : SubscribePc} (h : 0 < pc.remaining) :
    pc.isCounted = true ∧ pc.preLock = false := by
  cases pc with
  | watchSubscribe | watchChanged | watchRead | watchDone | lockFinal => exact ⟨rfl, rfl⟩
  | _ => exact absurd h (Nat.lt_irrefl 0)

/-! ## What a sleeping call knows -/

/-- A call sleeping in `changed()` has seen the current version only if the state is `Connecting`. -/
def SeenInv (st : State) (version : Nat) (calls : List SubscribePc) : Prop :=
  ∀ pc ∈ calls, ∀ seen, pc = .watchChanged seen →
    seen ≤ version ∧ (seen = version → st = .connecting)

namespace SeenInv

variable {st st' : State} {version : Nat} {calls : List SubscribePc} {i : Nat} {pc' : SubscribePc}

theorem move (h : SeenInv st version calls) (hpc' : ∀ seen, pc' ≠ .watchChanged seen) :
    SeenInv st version (calls.set i pc') :=
  Pool.forall_set h fun seen he => absurd he (hpc' seen)

/-- The state is written: nobody who sleeps has seen the new version. -/
theorem send {w : Watch State} (h : SeenInv st w.version calls)
    (hpos : ∀ pc ∈ calls, ∀ seen, pc = .watchChanged seen → 0 < w.receivers) :
    SeenInv st' (w.send st').version calls := by
  intro pc hpc seen he
  have hle := (h pc hpc seen he).1
  rw [Watch.send_version w st' (hpos pc hpc seen he)]
  exact ⟨by omega, fun heq => by omega⟩

end SeenInv

def Sys.Seen (s : Sys) : Prop := SeenInv s.state s.stateWatch.version s.calls

/-- A step in which a waiting call reads the published state keeps what the sleeping calls know. -/
theorem seen_step {s s' : Sys} {a : Action} (hrecv : s.Receivers)
    (hok : s.readsState a = true) (h : s.Seen) (hs : Step s a s') : s'.Seen := by
  have hpos : ∀ pc ∈ s.calls, ∀ seen, pc = .watchChanged seen → 0 < s.stateWatch.receivers := by
    rintro _ hpc seen rfl
    exact hrecv.pos hpc rfl
  cases hs with
  | subscribe => exact Pool.forall_append h fun _ he => by cases he
  | sendAttached | rejectBudget | foundConnecting | foundStreaming | startConnect | callConnectOk
  | callConnectErr | noReset | spawnWatchdog | watchSubscribe | watchChanged | watchDone
  | rollback | cancelLock | cancelConnect | cancelFailed | cancelConnected
  | cancelWaiting | cancelFinal | dropSubscription | play | forward =>
    exact h.move fun _ => SubscribePc.noConfusion
  | enterConnecting | resetToIdle | install =>
    exact (h.send hpos).move fun _ => SubscribePc.noConfusion
  | @watchRead i hi =>
    apply Pool.forall_set h
    intro seen he
    have hval := Sys.value_eq_of_readsState hok hi
    unfold Sys.watchOutcome at he
    split at he
    · cases he
    · cases he
    · rename_i hv
      cases he
      exact ⟨Nat.le_refl _, fun _ => hval ▸ hv⟩
  | lockFinal =>
    apply h.move
    intro seen
    unfold Sys.finalOutcome
    split <;> exact SubscribePc.noConfusion
  | @returning i x e hi =>
    have hsame : (if x = .sawIdle then s.stateWatch.dropReceiver else s.stateWatch).version =
        s.stateWatch.version := by
      split <;> rfl
    show SeenInv s.state (if x = .sawIdle then _ else _ : Watch State).version _
    rw [hsame]
    exact h.move fun _ => SubscribePc.noConfusion
  | reinstall | teardown => exact h.send hpos
  | _ => exact h

variable {idleTimeout : Nat} {failedRx : Option Bool} {s s' : Sys}

/-- The runs in which a waiting call always reads the published state. -/
abbrev ReachableReading (idleTimeout : Nat) (failedRx : Option Bool) : Sys → Prop :=
  ReachableWhere (system idleTimeout failedRx) fun s a => s.readsState a = true

abbrev PathReading (idleTimeout : Nat) (failedRx : Option Bool) :
    Sys → List Action → Sys → Prop :=
  PathWhere (system idleTimeout failedRx) fun s a => s.readsState a = true

theorem seen_of_reachable (h : ReachableReading idleTimeout failedRx s) : s.Seen :=
  invariant_of_steps (fun _ hpc => by cases hpc)
    (fun hr hok hp hs => seen_step (receivers_of_reachable hr.reachable) hok hp hs) h

/-! ## One step of the owner and of the waiting call -/

/-- An attempt stays what it is, or a pending one gets its outcome. -/
theorem attempt_of_move {a : Action} {o : Nat} {po po' : SubscribePc} {r : Attempt}
    (hm : Move s s' o a po po') (hr : po.attempt? = some r) :
    po'.attempt? = some r ∨ r = .pending ∧
      (po'.attempt? = some .failed ∨ po'.attempt? = some .succeeded ∧ s'.state = .streaming) := by
  cases hm with
  | sendAttached | rejectBudget | enterConnecting | foundConnecting | foundStreaming
  | watchSubscribe | watchRead | watchChanged | watchDone => cases hr
  | startConnect | connectOk | connectErr | spawnWatchdog | dropSubscription | play | forward =>
    exact Or.inl hr
  | reset =>
    cases hr
    exact Or.inr ⟨rfl, Or.inl rfl⟩
  | install hs' =>
    cases hr
    exact Or.inr ⟨rfl, Or.inr ⟨rfl, hs'⟩⟩
  | lockFinal =>
    cases hr
    refine Or.inl ?_
    unfold Sys.finalOutcome
    split <;> rfl
  | @rollback x e =>
    cases x with
    | connectFailed => exact Or.inl hr
    | budgetExhausted | sawIdle => cases hr
  | @returning x e =>
    cases x with
    | connectFailed => exact Or.inl hr
    | budgetExhausted | sawIdle => cases hr
  | cancelOwner hpc =>
    rcases hpc with ⟨tx, j, rfl⟩ | ⟨e, rfl⟩ | ⟨tx, j, rfl⟩ <;> exact Or.inl hr
  | cancel hpc =>
    rcases hpc with rfl | ⟨seen, rfl⟩ | rfl
    · cases hr
    · cases hr
    · exact Or.inl hr

/-- A call that waits while the state is `Connecting` keeps waiting, or is cancelled. -/
theorem waits_of_move {a : Action} {i : Nat} {pi pi' : SubscribePc}
    (hok : s.readsState a = true) (hi : s.calls[i]? = some pi) (hst : s.state = .connecting)
    (hm : Move s s' i a pi pi') (hw : pi.waits = true ∨ pi = .cancelled false) :
    pi'.waits = true ∨ pi' = .cancelled false := by
  rcases hw with hw | rfl
  · cases hm with
    | watchSubscribe => exact Or.inl rfl
    | watchRead =>
      have hval := Sys.value_eq_of_readsState hok hi
      left
      simp only [Sys.watchOutcome, hval, hst]
      rfl
    | watchChanged => exact Or.inl rfl
    | cancel => exact Or.inr rfl
    | cancelOwner hpc => rcases hpc with ⟨tx, j, rfl⟩ | ⟨e, rfl⟩ | ⟨tx, j, rfl⟩ <;> cases hw
    | _ => cases hw
  · cases hm with
    | cancelOwner hpc => rcases hpc with ⟨tx, j, h⟩ | ⟨e, h⟩ | ⟨tx, j, h⟩ <;> cases h
    | cancel hpc => rcases hpc with h | ⟨seen, h⟩ | h <;> cases h

/-- The call has returned `Ok` or was cancelled. -/
def SubscribePc.over (pc : SubscribePc) : Bool := pc.returnedOk || pc == .cancelled false

theorem remaining_of_over {pc : SubscribePc} (h : pc.over = true) : pc.remaining = 0 := by
  cases pc with
  | live | dropped => rfl
  | cancelled => rfl
  | _ => cases h

/-- A call that is over stays so, and takes no step of its own. -/
theorem over_of_move {a : Action} {i : Nat} {pi pi' : SubscribePc} (hm : Move s s' i a pi pi')
    (hover : pi.over = true) : pi'.over = true ∧ a ≠ .call i := by
  cases hm with
  | dropSubscription | play | forward => exact ⟨rfl, Action.noConfusion⟩
  | cancelOwner hpc =>
    rcases hpc with ⟨tx, j, rfl⟩ | ⟨e, rfl⟩ | ⟨tx, j, rfl⟩ <;> cases hover
  | cancel hpc => rcases hpc with rfl | ⟨seen, rfl⟩ | rfl <;> cases hover
  | _ => cases hover

/-- Once the state is `Streaming`, each step of a waiting call brings it closer to `Ok`. -/
theorem remaining_of_move {a : Action} {i : Nat} {pi pi' : SubscribePc} (hslots : s.Slots)
    (hok : s.readsState a = true) (hi : s.calls[i]? = some pi) (hst : s.state = .streaming)
    (hm : Move s s' i a pi pi') (hpos : 0 < pi.remaining) :
    (pi'.over = true ∨ 0 < pi'.remaining) ∧ pi'.remaining < pi.remaining := by
  cases hm with
  | watchSubscribe => exact ⟨Or.inr (by decide), by decide⟩
  | watchRead =>
    have hval := Sys.value_eq_of_readsState hok hi
    have hdone : s.watchOutcome = .watchDone := by
      simp only [Sys.watchOutcome, hval, hst]
    rw [hdone]
    exact ⟨Or.inr (by decide), by decide⟩
  | watchChanged => exact ⟨Or.inr (by decide), Nat.lt_succ_self 3⟩
  | watchDone => exact ⟨Or.inr (by decide), by decide⟩
  | lockFinal =>
    obtain ⟨sub, hsub⟩ := finalOutcome_of_streaming hslots hst
    rw [hsub]
    exact ⟨Or.inl rfl, Nat.zero_lt_one⟩
  | cancel => exact ⟨Or.inl rfl, hpos⟩
  | cancelOwner hpc =>
    rcases hpc with ⟨tx, j, rfl⟩ | ⟨e, rfl⟩ | ⟨tx, j, rfl⟩ <;> cases hpos
  | _ => cases hpos

/-- A counted call that has been inside the mutex keeps the state `Streaming`. -/
theorem streaming_of_step {a : Action} (hv : s.Viewers) {i : Nat} {pi : SubscribePc}
    (hi : s.calls[i]? = some pi) (hcounted : pi.isCounted = true) (hpre : pi.preLock = false)
    (hst : s.state = .streaming) (hs : Step s a s') : s'.state = .streaming := by
  cases hs with
  | enterConnecting hj hl hidle =>
    rw [hst] at hidle
    cases hidle
  | resetToIdle hj hl hconn =>
    rw [hst] at hconn
    cases hconn
  | install | reinstall => rfl
  | teardown ht => exact absurd (List.mem_of_getElem? ht) (hv.not_tearing hi hcounted hpre)
  | _ => exact hst

/-! ## The pair of the owner and the waiting call -/

/-- What the point of the waiting call `pi` may be, by how far the attempt of its owner `po` has
come. -/
inductive Waiting (st : State) (po pi : SubscribePc) : Prop where
  | pending (ho : po.attempt? = some .pending) (hi : pi.waits = true ∨ pi = .cancelled false)
  | failed (ho : po.attempt? = some .failed)
  | succeeded (ho : po.attempt? = some .succeeded)
      (hi : pi.over = true ∨ 0 < pi.remaining ∧ st = .streaming)

theorem attempt_of_step {a : Action} {o : Nat} {po : SubscribePc} {r : Attempt}
    (hs : Step s a s') (ho : s.calls[o]? = some po) (hr : po.attempt? = some r) :
    ∃ po', s'.calls[o]? = some po' ∧ (po'.attempt? = some r ∨ r = .pending ∧
      (po'.attempt? = some .failed ∨
        po'.attempt? = some .succeeded ∧ s'.state = .streaming)) := by
  rcases call_of_step hs ho with ⟨hsame, -⟩ | ⟨po', ho', hm⟩
  · exact ⟨po, hsame, Or.inl hr⟩
  · exact ⟨po', ho', attempt_of_move hm hr⟩

theorem waits_of_step {a : Action} {i : Nat} {pi : SubscribePc} (hok : s.readsState a = true)
    (hs : Step s a s') (hi : s.calls[i]? = some pi) (hst : s.state = .connecting)
    (hw : pi.waits = true ∨ pi = .cancelled false) :
    ∃ pi', s'.calls[i]? = some pi' ∧ (pi'.waits = true ∨ pi' = .cancelled false) := by
  rcases call_of_step hs hi with ⟨hsame, -⟩ | ⟨pi', hi', hm⟩
  · exact ⟨pi, hsame, hw⟩
  · exact ⟨pi', hi', waits_of_move hok hi hst hm hw⟩

/-- After the success, a step of the call brings it closer to `Ok`, and no other step takes it
further away. -/
theorem progress_of_step {a : Action} {i : Nat} {pi : SubscribePc} (hv : s.Viewers)
    (hslots : s.Slots) (hok : s.readsState a = true) (hs : Step s a s')
    (hi : s.calls[i]? = some pi)
    (h : pi.over = true ∨ 0 < pi.remaining ∧ s.state = .streaming) :
    ∃ pi', s'.calls[i]? = some pi' ∧
      (pi'.over = true ∨ 0 < pi'.remaining ∧ s'.state = .streaming) ∧
      pi'.remaining + [a].count (.call i) ≤ pi.remaining := by
  have hnot {a : Action} (ha : a ≠ .call i) : [a].count (.call i) = 0 :=
    List.count_eq_zero.mpr fun hmem => ha (List.mem_singleton.mp hmem).symm
  have hone : [a].count (.call i) ≤ 1 := List.count_le_length
  rcases h with hover | ⟨hpos, hst⟩
  · rcases call_of_step hs hi with ⟨hsame, ha⟩ | ⟨pi', hi', hm⟩
    · exact ⟨pi, hsame, Or.inl hover, by rw [hnot ha]; omega⟩
    · obtain ⟨hover', ha⟩ := over_of_move hm hover
      refine ⟨pi', hi', Or.inl hover', ?_⟩
      rw [hnot ha, remaining_of_over hover']
      omega
  · obtain ⟨hcounted, hpre⟩ := counted_of_remaining hpos
    have hst' := streaming_of_step hv hi hcounted hpre hst hs
    rcases call_of_step hs hi with ⟨hsame, ha⟩ | ⟨pi', hi', hm⟩
    · exact ⟨pi, hsame, Or.inr ⟨hpos, hst'⟩, by rw [hnot ha]; omega⟩
    · obtain ⟨hnext, hlt⟩ := remaining_of_move hslots hok hi hst hm hpos
      exact ⟨pi', hi', hnext.imp id fun hpos' => ⟨hpos', hst'⟩, by omega⟩

theorem waiting_step {a : Action} {o i : Nat} {po pi : SubscribePc} (hv : s.Viewers)
    (hslots : s.Slots) (hok : s.readsState a = true) (hs : Step s a s')
    (ho : s.calls[o]? = some po) (hi : s.calls[i]? = some pi) (h : Waiting s.state po pi) :
    ∃ po' pi', s'.calls[o]? = some po' ∧ s'.calls[i]? = some pi' ∧ Waiting s'.state po' pi' := by
  cases h with
  | pending hpo hpi =>
    have hst := hslots.connecting_of_owner ho (owns_iff_pending.mpr hpo)
    obtain ⟨po', ho', hatt⟩ := attempt_of_step hs ho hpo
    obtain ⟨pi', hi', hw⟩ := waits_of_step hok hs hi hst hpi
    refine ⟨po', pi', ho', hi', ?_⟩
    rcases hatt with hatt | ⟨-, hatt | ⟨hatt, hst'⟩⟩
    · exact .pending hatt hw
    · exact .failed hatt
    · refine .succeeded hatt ?_
      rcases hw with hw | rfl
      · refine Or.inr ⟨?_, hst'⟩
        cases pi' with
        | watchSubscribe | watchRead | watchChanged => exact Nat.succ_pos _
        | _ => cases hw
      · exact Or.inl rfl
  | failed hpo =>
    obtain ⟨po', ho', hatt⟩ := attempt_of_step hs ho hpo
    have hatt : po'.attempt? = some .failed := hatt.resolve_right fun hp => by cases hp.1
    rcases call_of_step hs hi with ⟨hsame, -⟩ | ⟨pi', hi', -⟩
    · exact ⟨po', pi, ho', hsame, .failed hatt⟩
    · exact ⟨po', pi', ho', hi', .failed hatt⟩
  | succeeded hpo hpi =>
    obtain ⟨po', ho', hatt⟩ := attempt_of_step hs ho hpo
    have hatt : po'.attempt? = some .succeeded := hatt.resolve_right fun hp => by cases hp.1
    obtain ⟨pi', hi', hnext, -⟩ := progress_of_step hv hslots hok hs hi hpi
    exact ⟨po', pi', ho', hi', .succeeded hatt hnext⟩

/-! ## Along a run -/

theorem waiting_path {as : List Action} {o i : Nat} {po pi : SubscribePc}
    (hr : ReachableReading idleTimeout failedRx s) (hp : PathReading idleTimeout failedRx s as s')
    (ho : s.calls[o]? = some po) (hi : s.calls[i]? = some pi) (h : Waiting s.state po pi) :
    ∃ po' pi', s'.calls[o]? = some po' ∧ s'.calls[i]? = some pi' ∧ Waiting s'.state po' pi' := by
  refine hp.induct (P := fun t => ∃ po' pi', t.calls[o]? = some po' ∧ t.calls[i]? = some pi' ∧
    Waiting t.state po' pi') hr ⟨po, pi, ho, hi, h⟩ ?_
  rintro t a t' ht hok hs ⟨po', pi', ho', hi', hw⟩
  exact waiting_step (viewers_of_reachable ht.reachable) (slots_of_reachable ht.reachable) hok
    (step_of_eq hs) ho' hi' hw

/-- After the success the steps of the call along any run are bounded by what it has left. -/
theorem progress_path {bs : List Action} {i : Nat} {pi : SubscribePc}
    (hr : ReachableReading idleTimeout failedRx s) (hp : PathReading idleTimeout failedRx s bs s')
    (hi : s.calls[i]? = some pi) (h : pi.over = true ∨ 0 < pi.remaining ∧ s.state = .streaming) :
    ∃ pi', s'.calls[i]? = some pi' ∧
      (pi'.over = true ∨ 0 < pi'.remaining ∧ s'.state = .streaming) ∧
      pi'.remaining + bs.count (.call i) ≤ pi.remaining := by
  induction hp with
  | nil => exact ⟨pi, hi, h, Nat.le_refl _⟩
  | snoc hp hok hs ih =>
    obtain ⟨pi', hi', hnext, hle⟩ := ih
    have hr' := hp.reachableWhere hr
    obtain ⟨pi'', hi'', hnext', hle'⟩ := progress_of_step (viewers_of_reachable hr'.reachable)
      (slots_of_reachable hr'.reachable) hok (step_of_eq hs) hi' hnext
    refine ⟨pi'', hi'', hnext', ?_⟩
    rw [List.count_append]
    omega

theorem enabled_of_remaining {i : Nat} {pi : SubscribePc} (hv : s.Viewers) (hseen : s.Seen)
    (hi : s.calls[i]? = some pi) (hst : s.state = .streaming) (hpos : 0 < pi.remaining) :
    (s.step (.call i)).isSome = true := by
  have hstep : s.step (.call i) = s.callStep i pi := by
    simp only [Sys.step, hi, Option.bind_some]
  rw [hstep]
  cases pi with
  | watchSubscribe | watchRead | watchDone => rfl
  | watchChanged seen =>
    have hne : s.stateWatch.version ≠ seen := by
      intro he
      have hconn := (hseen _ (List.mem_of_getElem? hi) seen rfl).2 he.symm
      rw [hst] at hconn
      cases hconn
    simp only [Sys.callStep, if_pos hne, Option.isSome_some]
  | lockFinal =>
    have hl : s.lockFree = true := lockFree_iff.mpr (hv.not_tearing hi rfl rfl)
    simp only [Sys.callStep, if_pos hl, Option.isSome_some]
  | _ => exact absurd hpos (Nat.lt_irrefl 0)

/-! ## The outcome of a wait -/

/-- While the state is `Connecting` some call owns the pending attempt. -/
theorem owner_of_connecting (hslots : s.Slots) (hst : s.state = .connecting) :
    ∃ (o : Nat) (po : SubscribePc), s.calls[o]? = some po ∧ po.attempt? = some .pending := by
  have h : SlotsInv s.state s.rtpTx s.stop s.h264 s.calls := hslots
  have hcount : 0 < s.calls.countP owns := by
    rw [h.owner, if_pos hst]
    decide
  obtain ⟨po, hmem, hown⟩ := List.countP_pos_iff.mp hcount
  obtain ⟨o, ho⟩ := List.mem_iff_getElem?.mp hmem
  exact ⟨o, po, ho, owns_iff_pending.mp hown⟩

/-- The step in which a call finds the state `Connecting` starts its wait. -/
theorem waiting_of_found {o i : Nat} {po : SubscribePc} (hi : s.calls[i]? = some .lockState)
    (hst : s.state = .connecting) (hs : s.step (.call i) = some s') (ho : s.calls[o]? = some po)
    (hpo : po.attempt? = some .pending) :
    ∃ po', s'.calls[o]? = some po' ∧ s'.calls[i]? = some .watchSubscribe ∧
      Waiting s'.state po' .watchSubscribe := by
  obtain ⟨po', ho', hatt⟩ := attempt_of_step (step_of_eq hs) ho hpo
  have hi' : s'.calls[i]? = some .watchSubscribe ∧ s'.state = .connecting := by
    simp only [Sys.step, hi, Option.bind_some, Sys.callStep, hst] at hs
    split at hs
    · cases hs
      exact ⟨Pool.getElem?_set_self hi, hst⟩
    · cases hs
  refine ⟨po', ho', hi'.1, ?_⟩
  rcases hatt with hatt | ⟨-, hatt | ⟨-, hst'⟩⟩
  · exact .pending hatt (Or.inl rfl)
  · exact .failed hatt
  · rw [hi'.2] at hst'
    cases hst'

theorem Waiting.failed_of_isErr {st : State} {po pi : SubscribePc} (h : Waiting st po pi)
    (herr : pi.isErr = true) : po.attempt? = some .failed := by
  cases h with
  | pending hpo hpi =>
    rcases hpi with hpi | rfl
    · cases pi with
      | rollback | returning | failed => cases hpi
      | _ => cases herr
    · cases herr
  | failed hpo => exact hpo
  | succeeded hpo hpi =>
    have hnot : pi.over = false ∧ pi.remaining = 0 := by
      cases pi with
      | rollback | returning | failed => exact ⟨rfl, rfl⟩
      | _ => cases herr
    rcases hpi with hpi | ⟨hpi, -⟩
    · rw [hnot.1] at hpi
      cases hpi
    · omega

theorem Waiting.of_succeeded {st : State} {po pi : SubscribePc} (h : Waiting st po pi)
    (hsucc : po.attempt? = some .succeeded) :
    pi.over = true ∨ 0 < pi.remaining ∧ st = .streaming := by
  cases h with
  | pending hpo => rw [hsucc] at hpo; cases hpo
  | failed hpo => rw [hsucc] at hpo; cases hpo
  | succeeded hpo hpi => exact hpi

theorem remaining_le_four (pi : SubscribePc) : pi.remaining ≤ 4 := by
  unfold SubscribePc.remaining
  split <;> omega

/-- A call that finds the state `Connecting` waits for the attempt of one other call, its owner. In
every run in which waiting calls read the published state: if the call fails, the owner's attempt has
failed while it waited; and once the owner's attempt has succeeded, the call is never blocked and
takes four more steps of its own at most before it has returned `Ok`, unless it is cancelled. -/
theorem waiter_outcome {s₀ s₁ : Sys} {i : Nat} (h : ReachableReading idleTimeout failedRx s₀)
    (hi : s₀.calls[i]? = some .lockState) (hst : s₀.state = .connecting)
    (hs : s₀.step (.call i) = some s₁) :
    ∃ (o : Nat) (po : SubscribePc), s₀.calls[o]? = some po ∧ po.attempt? = some .pending ∧
      ∀ as s₂, PathReading idleTimeout failedRx s₁ as s₂ →
        ∃ po' pi, s₂.calls[o]? = some po' ∧ s₂.calls[i]? = some pi ∧
          (pi.isErr = true → po'.attempt? = some .failed) ∧
          (po'.attempt? = some .succeeded →
            (pi.returnedOk = true ∨ pi = .cancelled false ∨
                (s₂.step (.call i)).isSome = true) ∧
              ∀ bs s₃, PathReading idleTimeout failedRx s₂ bs s₃ → bs.count (.call i) ≤ 4) := by
  obtain ⟨o, po, ho, hpending⟩ := owner_of_connecting (slots_of_reachable h.reachable) hst
  refine ⟨o, po, ho, hpending, ?_⟩
  intro as s₂ hp
  have hok : s₀.readsState (.call i) = true := by simp [Sys.readsState, hi]
  have hr₁ : ReachableReading idleTimeout failedRx s₁ := .step h hok hs
  obtain ⟨po₁, ho₁, hi₁, hw₁⟩ := waiting_of_found hi hst hs ho hpending
  obtain ⟨po', pi, ho', hi', hw⟩ := waiting_path hr₁ hp ho₁ hi₁ hw₁
  have hr₂ := hp.reachableWhere hr₁
  refine ⟨po', pi, ho', hi', hw.failed_of_isErr, ?_⟩
  intro hsucc
  have hpi := hw.of_succeeded hsucc
  constructor
  · rcases hpi with hover | ⟨hpos, hst'⟩
    · rcases Bool.or_eq_true_iff.mp hover with hok | hcancelled
      · exact Or.inl hok
      · exact Or.inr (Or.inl (beq_iff_eq.mp hcancelled))
    · exact Or.inr (Or.inr (enabled_of_remaining (viewers_of_reachable hr₂.reachable)
        (seen_of_reachable hr₂) hi' hst' hpos))
  · intro bs s₃ hp'
    obtain ⟨pi', -, -, hle⟩ := progress_path hr₂ hp' hi' hpi
    have hmax := remaining_le_four pi
    omega

/-- With a permanent receiver of the watch, call 1 finds `Connecting` while call 0 connects. -/
theorem waiter_outcome_second : ∃ s₀ s₁, ReachableReading 60 none s₀ ∧
    s₀.step (.call 1) = some s₁ ∧ ∃ (o : Nat) (po : SubscribePc), s₀.calls[o]? = some po ∧
      po.attempt? = some .pending ∧
      ∀ as s₂, PathReading 60 none s₁ as s₂ → ∃ po' pi : SubscribePc, s₂.calls[o]? = some po' ∧
        s₂.calls[1]? = some pi ∧ (pi.isErr = true → po'.attempt? = some .failed) := by
  obtain ⟨s₀, hr, hp⟩ := exists_reachableWhere_of_runWhere (system 60 none) Sys.readsState
    [.stateChanges, .subscribe, .call 0, .call 0, .startConnect 0 stubParams, .subscribe,
      .call 1]
    (fun s : Sys => (s.step (.call 1)).isSome &&
      decide (s.calls[1]? = some SubscribePc.lockState ∧ s.state = .connecting))
    (by decide +kernel)
  obtain ⟨hsome, hp⟩ := Bool.and_eq_true_iff.mp hp
  obtain ⟨s₁, hs⟩ := Option.isSome_iff_exists.mp hsome
  obtain ⟨hi, hst⟩ := of_decide_eq_true hp
  obtain ⟨o, po, ho, hpo, hall⟩ := waiter_outcome hr hi hst hs
  refine ⟨s₀, s₁, hr, hs, o, po, ho, hpo, ?_⟩
  intro as s₂ hpath
  obtain ⟨po', pi, ho', hi', herr, -⟩ := hall as s₂ hpath
  exact ⟨po', pi, ho', hi', herr⟩

/-- Without a receiver the write of `Connecting` is dropped. Call 1 finds the state `Connecting`,
reads the stale `Idle` from the watch and fails, and the attempt it waited for succeeds. -/
theorem waiter_fails_on_success : ∃ s₀ s₁ as s₂, Reachable (system 60 none) s₀ ∧
    s₀.calls[1]? = some .lockState ∧ s₀.state = .connecting ∧ s₀.step (.call 1) = some s₁ ∧
    Path (system 60 none) s₁ as s₂ ∧
    s₂.calls[1]? = some (.failed (.unavailable "session connect failed")) ∧
    (∃ sub, s₂.calls[0]? = some (.live sub)) ∧ ∀ x ∈ s₂.sessions, x.phase ≠ .failed := by
  obtain ⟨s₀, hr, hp⟩ := exists_reachable_of_run (system 60 none)
    [.subscribe, .call 0, .call 0, .startConnect 0 stubParams, .subscribe, .call 1]
    (fun s : Sys => decide (s.calls[1]? = some SubscribePc.lockState ∧
        s.state = .connecting) &&
      (s.step (.call 1)).any fun s₁ => (run (system 60 none) s₁ [.call 1, .call 1, .call 1, .call 1,
        .register 0, .callConnect 0 .ok, .call 0, .call 0, .call 0]).any fun s₂ : Sys =>
          decide (s₂.calls[1]? =
              some (SubscribePc.failed (.unavailable "session connect failed")) ∧
            ∀ x ∈ s₂.sessions, x.phase ≠ ConnectPhase.failed) &&
          s₂.calls[0]?.any SubscribePc.isLive)
    (by decide +kernel)
  obtain ⟨hp, hrest⟩ := Bool.and_eq_true_iff.mp hp
  obtain ⟨hi, hst⟩ := of_decide_eq_true hp
  obtain ⟨s₁, hs, hrest⟩ := (Option.any_eq_true _ _).mp hrest
  obtain ⟨s₂, hpath, hend⟩ := exists_path_of_run hrest
  obtain ⟨hend, hlive⟩ := Bool.and_eq_true_iff.mp hend
  obtain ⟨hfail, hnone⟩ := of_decide_eq_true hend
  obtain ⟨pc, hpc, hlive⟩ := (Option.any_eq_true _ _).mp hlive
  have hsub : ∃ sub, pc = .live sub := by
    cases pc with
    | live sub => exact ⟨sub, rfl⟩
    | _ => cases hlive
  obtain ⟨sub, rfl⟩ := hsub
  exact ⟨s₀, s₁, _, s₂, hr, hi, hst, hs, hpath, hfail, ⟨sub, hpc⟩, hnone⟩

end Buddy3dProxy.Supervisor
