import Buddy3dProxy.Supervisor.Steps
import Buddy3dProxy.Tokio.Watch
import Buddy3dProxy.Transition.Pool
import Buddy3dProxy.Transition.System

/-!
# The published state

`translate` and `run_watcher` of `mqtt/state.rs`, with the `publish` that `main.rs` hands to the
watcher: every value is published on the retained topic from a task of its own. The supervisor and
the auth orchestrator change their state at any time, each under its lock and with a `send` on its
watch channel, whose sender lives as long as the process.
-/

namespace Buddy3dProxy.Mqtt

open Supervisor (State)
open Transition

/-- The value published for a state. `auth_failed` takes precedence. -/
def translate (state : State) (failed : Bool) : String :=
  if failed then "auth_failed"
  else
    match state with
    | .idle => "idle"
    | .connecting => "connecting"
    | .streaming => "streaming"

/-- Where `run_watcher` stands. -/
inductive WatcherPc where
  /-- Not yet polled for the first time. -/
  | notStarted
  /-- About to lock the supervisor's state. -/
  | snapshotting
  /-- With the snapshot, about to read the latch. -/
  | borrowing (state : State)
  /-- In `select!`. -/
  | selecting
  deriving DecidableEq, Repr

/-- A task spawned by `publish`. -/
structure PublishTask where
  value : String
  done : Bool
  deriving DecidableEq, Repr

/-- The watcher, the tasks it spawned, and what they share with the rest of the process. -/
structure Watcher where
  /-- The supervisor's state, behind its lock. -/
  state : State
  stateWatch : Tokio.Watch State
  /-- The auth-failed latch, if the watcher was given one. -/
  failedWatch : Option (Tokio.Watch Bool)
  pc : WatcherPc
  /-- The versions last seen by the two receivers. -/
  stateSeen : Nat
  failedSeen : Nat
  last : Option String
  /-- The tasks, in the order they were spawned. -/
  tasks : List PublishTask
  /-- The values published on the topic, oldest first. -/
  published : List String

inductive WatcherStep where
  | changeState (state : State)
  | changeFailed (failed : Bool)
  | start
  /-- A `changed()` in the `select!` completes. -/
  | stateChanged
  | failedChanged
  | snapshot
  | borrow
  /-- A spawned task publishes its value. -/
  | runTask (i : Nat)

namespace Watcher

/-- The watcher of a process with or without a latch. -/
def new (latch : Bool) : Watcher where
  state := .idle
  stateWatch := .new .idle
  failedWatch := if latch then some (Tokio.Watch.new false).subscribe else none
  pc := .notStarted
  stateSeen := 0
  failedSeen := 0
  last := none
  tasks := []
  published := []

/-- The current value of the latch. -/
def failed (s : Watcher) : Bool :=
  match s.failedWatch with
  | some w => w.value
  | none => false

/-- The call of `publish`: a task is spawned. -/
def publish (s : Watcher) (value : String) : Watcher :=
  { s with tasks := s.tasks ++ [⟨value, false⟩], last := some value, pc := .selecting }

def step (s : Watcher) : WatcherStep → Option Watcher
  | .changeState state => some { s with state, stateWatch := s.stateWatch.send state }
  | .changeFailed failed =>
    match s.failedWatch with
    | some w => some { s with failedWatch := some (w.send failed) }
    | none => none
  | .start =>
    if s.pc = .notStarted then
      some { s with
        stateWatch := s.stateWatch.subscribe
        stateSeen := s.stateWatch.version
        pc := .snapshotting }
    else none
  | .stateChanged =>
    if s.pc = .selecting ∧ s.stateWatch.version ≠ s.stateSeen then
      some { s with stateSeen := s.stateWatch.version, pc := .snapshotting }
    else none
  | .failedChanged =>
    match s.failedWatch with
    | some w =>
      if s.pc = .selecting ∧ w.version ≠ s.failedSeen then
        some { s with failedSeen := w.version, pc := .snapshotting }
      else none
    | none => none
  | .snapshot => if s.pc = .snapshotting then some { s with pc := .borrowing s.state } else none
  | .borrow =>
    match s.pc with
    | .borrowing state =>
      let now := translate state s.failed
      if some now ≠ s.last then some (s.publish now) else some { s with pc := .selecting }
    | _ => none
  | .runTask i =>
    match s.tasks[i]? with
    | some ⟨value, false⟩ =>
      some { s with tasks := s.tasks.set i ⟨value, true⟩, published := s.published ++ [value] }
    | _ => none

/-- The watcher waits with nothing left to see, and every task has run. -/
structure Settled (s : Watcher) : Prop where
  selecting : s.pc = .selecting
  state : s.stateWatch.version = s.stateSeen
  failed : ∀ w, s.failedWatch = some w → w.version = s.failedSeen
  tasks : ∀ t ∈ s.tasks, t.done = true

instance (s : Watcher) : Decidable s.Settled :=
  decidable_of_iff
    (s.pc = .selecting ∧ s.stateWatch.version = s.stateSeen ∧
      (s.failedWatch.all fun w => w.version = s.failedSeen) = true ∧
        ∀ t ∈ s.tasks, t.done = true)
    ⟨fun ⟨hpc, hstate, hfailed, htasks⟩ =>
        ⟨hpc, hstate, by simpa [Option.all_eq_true] using hfailed, htasks⟩,
      fun h => ⟨h.selecting, h.state, by simpa [Option.all_eq_true] using h.failed, h.tasks⟩⟩

/-- The task spawned last does not overtake one that is to publish another value. -/
def inOrder (s : Watcher) : WatcherStep → Bool
  | .runTask i => i + 1 < s.tasks.length || s.tasks.all fun t => t.done || some t.value = s.last
  | _ => true

end Watcher

/-- The runs of the watcher. -/
def watcherSystem (latch : Bool) : System Watcher WatcherStep := ⟨.new latch, Watcher.step⟩

namespace Watcher

variable {s s' : Watcher}

/-- The ways a step can go. -/
inductive Moves (s : Watcher) : WatcherStep → Watcher → Prop
  | changeState (state : State) :
      Moves s (.changeState state) { s with state, stateWatch := s.stateWatch.send state }
  | changeFailed {w : Tokio.Watch Bool} (hw : s.failedWatch = some w) (failed : Bool) :
      Moves s (.changeFailed failed) { s with failedWatch := some (w.send failed) }
  | start (hpc : s.pc = .notStarted) :
      Moves s .start { s with
        stateWatch := s.stateWatch.subscribe
        stateSeen := s.stateWatch.version
        pc := .snapshotting }
  | stateChanged (hpc : s.pc = .selecting) :
      Moves s .stateChanged { s with stateSeen := s.stateWatch.version, pc := .snapshotting }
  | failedChanged {w : Tokio.Watch Bool} (hw : s.failedWatch = some w) (hpc : s.pc = .selecting) :
      Moves s .failedChanged { s with failedSeen := w.version, pc := .snapshotting }
  | snapshot (hpc : s.pc = .snapshotting) : Moves s .snapshot { s with pc := .borrowing s.state }
  | publish {state : State} (hpc : s.pc = .borrowing state)
      (hnew : some (translate state s.failed) ≠ s.last) :
      Moves s .borrow (s.publish (translate state s.failed))
  /-- The value is the one published last. -/
  | keep {state : State} (hpc : s.pc = .borrowing state)
      (hsame : some (translate state s.failed) = s.last) : Moves s .borrow { s with pc := .selecting }
  | runTask {i : Nat} {value : String} (hi : s.tasks[i]? = some ⟨value, false⟩) :
      Moves s (.runTask i)
        { s with tasks := s.tasks.set i ⟨value, true⟩, published := s.published ++ [value] }

theorem moves_of_step {a : WatcherStep} (hs : s.step a = some s') : Moves s a s' := by
  cases a with
  | changeState state => exact Option.some.inj hs ▸ .changeState state
  | changeFailed failed =>
    cases hw : s.failedWatch with
    | none => simp [Watcher.step, hw] at hs
    | some w =>
      simp only [Watcher.step, hw, Option.some.injEq] at hs
      exact hs ▸ .changeFailed hw failed
  | start =>
    simp only [Watcher.step, Option.ite_none_right_eq_some] at hs
    exact Option.some.inj hs.2 ▸ .start hs.1
  | stateChanged =>
    simp only [Watcher.step, Option.ite_none_right_eq_some] at hs
    exact Option.some.inj hs.2 ▸ .stateChanged hs.1.1
  | failedChanged =>
    simp only [Watcher.step] at hs
    split at hs
    · rename_i w hw
      simp only [Option.ite_none_right_eq_some] at hs
      exact Option.some.inj hs.2 ▸ .failedChanged hw hs.1.1
    · cases hs
  | snapshot =>
    simp only [Watcher.step, Option.ite_none_right_eq_some] at hs
    exact Option.some.inj hs.2 ▸ .snapshot hs.1
  | borrow =>
    cases hpc : s.pc with
    | borrowing state =>
      by_cases hnew : some (translate state s.failed) ≠ s.last
      · simp only [Watcher.step, hpc, if_pos hnew, Option.some.injEq] at hs
        exact hs ▸ .publish hpc hnew
      · simp only [Watcher.step, hpc, if_neg hnew, Option.some.injEq] at hs
        exact hs ▸ .keep hpc (not_not.mp hnew)
    | _ => simp [Watcher.step, hpc] at hs
  | runTask i =>
    simp only [Watcher.step] at hs
    split at hs
    · rename_i value hi
      exact Option.some.inj hs ▸ .runTask hi
    · cases hs

/-- What the watcher computed last is right for all it has seen. -/
structure View (s : Watcher) : Prop where
  receivers : s.pc ≠ .notStarted → 0 < s.stateWatch.receivers
  latchReceivers : ∀ w, s.failedWatch = some w → 0 < w.receivers
  stateSeen : s.stateSeen ≤ s.stateWatch.version
  failedSeen : ∀ w, s.failedWatch = some w → s.failedSeen ≤ w.version
  borrowing : ∀ state, s.pc = .borrowing state → s.stateWatch.version = s.stateSeen → state = s.state
  selecting : s.pc = .selecting → ∃ state failed, s.last = some (translate state failed) ∧
    (s.stateWatch.version = s.stateSeen → state = s.state) ∧
    ((∀ w, s.failedWatch = some w → w.version = s.failedSeen) → failed = s.failed)

/-- Once the task spawned last has run, no task is left to publish another value after it. -/
structure Queue (s : Watcher) : Prop where
  last : s.tasks.getLast?.map PublishTask.value = s.last
  published : s.tasks.getLast?.any PublishTask.done = true →
    (∀ t ∈ s.tasks, t.done = true ∨ some t.value = s.last) ∧ s.published.getLast? = s.last

theorem View.new (latch : Bool) : (Watcher.new latch).View where
  receivers := by simp [Watcher.new]
  latchReceivers := by cases latch <;> simp [Watcher.new]
  stateSeen := by simp [Watcher.new]
  failedSeen := by simp [Watcher.new]
  borrowing := by simp [Watcher.new]
  selecting := by simp [Watcher.new]

theorem Queue.new (latch : Bool) : (Watcher.new latch).Queue := ⟨rfl, by simp [Watcher.new]⟩

/-- A change of the state is one the watcher has yet to see. -/
theorem View.unseen_state (h : s.View) (hpc : s.pc ≠ .notStarted) (state : State) :
    (s.stateWatch.send state).version ≠ s.stateSeen := by
  have hle := h.stateSeen
  rw [s.stateWatch.send_version state (h.receivers hpc)]
  omega

theorem View.unseen_failed (h : s.View) {w : Tokio.Watch Bool} (hw : s.failedWatch = some w)
    (failed : Bool) : (w.send failed).version ≠ s.failedSeen := by
  have hle := h.failedSeen w hw
  rw [w.send_version failed (h.latchReceivers w hw)]
  omega

theorem View.changeState (h : s.View) (state : State) :
    View { s with state, stateWatch := s.stateWatch.send state } where
  receivers := by simpa using h.receivers
  latchReceivers := h.latchReceivers
  stateSeen := Nat.le_trans h.stateSeen (s.stateWatch.version_le_send state)
  failedSeen := h.failedSeen
  borrowing := by
    intro st hpc hseen
    have hstarted : s.pc ≠ .notStarted := fun hnot => WatcherPc.noConfusion (hnot.symm.trans hpc)
    exact absurd hseen (h.unseen_state hstarted state)
  selecting := by
    intro hpc
    have hstarted : s.pc ≠ .notStarted := fun hnot => WatcherPc.noConfusion (hnot.symm.trans hpc)
    obtain ⟨st, f, hlast, -, hf⟩ := h.selecting hpc
    exact ⟨st, f, hlast, fun hseen => absurd hseen (h.unseen_state hstarted state), hf⟩

theorem View.changeFailed (h : s.View) {w : Tokio.Watch Bool} (hw : s.failedWatch = some w)
    (failed : Bool) : View { s with failedWatch := some (w.send failed) } where
  receivers := h.receivers
  latchReceivers := by
    rintro w' hw'
    cases hw'
    simpa using h.latchReceivers w hw
  stateSeen := h.stateSeen
  failedSeen := by
    rintro w' hw'
    cases hw'
    exact Nat.le_trans (h.failedSeen w hw) (w.version_le_send failed)
  borrowing := h.borrowing
  selecting := by
    intro hpc
    obtain ⟨st, f, hlast, hst, -⟩ := h.selecting hpc
    exact ⟨st, f, hlast, hst, fun hseen => absurd (hseen _ rfl) (h.unseen_failed hw failed)⟩

/-- What is computed from the snapshot and the latch just read. -/
theorem View.computed (h : s.View) {state : State} (hpc : s.pc = .borrowing state) :
    ∃ st failed, some (translate state s.failed) = some (translate st failed) ∧
      (s.stateWatch.version = s.stateSeen → st = s.state) ∧
      ((∀ w, s.failedWatch = some w → w.version = s.failedSeen) → failed = s.failed) :=
  ⟨state, s.failed, rfl, h.borrowing state hpc, fun _ => rfl⟩

theorem View.step (h : s.View) {a : WatcherStep} (hs : s.step a = some s') : s'.View := by
  cases moves_of_step hs with
  | changeState state => exact h.changeState state
  | changeFailed hw failed => exact h.changeFailed hw failed
  | start hpc =>
    exact ⟨by simp, h.latchReceivers, by simp [Tokio.Watch.subscribe], h.failedSeen, by simp, by simp⟩
  | stateChanged hpc =>
    exact ⟨fun _ => h.receivers (by simp [hpc]), h.latchReceivers, Nat.le_refl _, h.failedSeen,
      by simp, by simp⟩
  | failedChanged hw hpc =>
    refine ⟨fun _ => h.receivers (by simp [hpc]), h.latchReceivers, h.stateSeen, ?_, by simp, by simp⟩
    rintro w' hw'
    rw [hw, Option.some.injEq] at hw'
    exact Nat.le_of_eq (congrArg Tokio.Watch.version hw')
  | snapshot hpc =>
    refine ⟨fun _ => h.receivers (by simp [hpc]), h.latchReceivers, h.stateSeen, h.failedSeen, ?_,
      by simp⟩
    intro state hstate _
    exact (WatcherPc.borrowing.inj hstate).symm
  | publish hpc hnew =>
    have hrecv := h.receivers (by simp [hpc])
    exact ⟨fun _ => hrecv, h.latchReceivers, h.stateSeen, h.failedSeen, by simp [Watcher.publish],
      fun _ => h.computed hpc⟩
  | keep hpc hsame =>
    have hnow := h.computed hpc
    rw [hsame] at hnow
    exact ⟨fun _ => h.receivers (by simp [hpc]), h.latchReceivers, h.stateSeen, h.failedSeen, by simp,
      fun _ => hnow⟩
  | runTask hi =>
    exact ⟨h.receivers, h.latchReceivers, h.stateSeen, h.failedSeen, h.borrowing, h.selecting⟩

/-- A task is spawned. -/
theorem Queue.publish (s : Watcher) (value : String) : (s.publish value).Queue where
  last := by simp [Watcher.publish]
  published := by simp [Watcher.publish]

/-- A waiting task runs. Only the last one needs care. -/
theorem Queue.runTask (h : s.Queue) {i : Nat} {value : String} (hi : s.tasks[i]? = some ⟨value, false⟩)
    (hok : s.inOrder (.runTask i) = true) :
    Queue { s with tasks := s.tasks.set i ⟨value, true⟩, published := s.published ++ [value] } where
  last := by
    rw [← h.last, List.getLast?_eq_getElem?, List.getLast?_eq_getElem?, List.length_set]
    by_cases hlast : i = s.tasks.length - 1
    · subst hlast
      rw [Pool.getElem?_set_self hi, hi]
      rfl
    · rw [List.getElem?_set_ne hlast]
  published := by
    have hlt := (List.getElem?_eq_some_iff.mp hi).1
    rw [List.getLast?_eq_getElem?, List.length_set]
    have hlastTask := h.last
    rw [List.getLast?_eq_getElem?] at hlastTask
    simp only [inOrder, Bool.or_eq_true, decide_eq_true_eq, List.all_eq_true] at hok
    intro hdone
    by_cases hlast : i = s.tasks.length - 1
    · have hvalue : some value = s.last := by simpa [← hlast, hi] using hlastTask
      have hall := hok.resolve_left (by omega)
      refine ⟨?_, by rw [List.getLast?_concat, hvalue]⟩
      exact Pool.forall_set (fun t ht => hall t ht) (.inl rfl)
    · rw [List.getElem?_set_ne hlast, ← List.getLast?_eq_getElem?] at hdone
      obtain ⟨hothers, -⟩ := h.published hdone
      have hvalue : some value = s.last := by
        simpa using hothers _ (List.mem_of_getElem? hi)
      refine ⟨?_, by rw [List.getLast?_concat, hvalue]⟩
      exact Pool.forall_set hothers (.inl rfl)

theorem Queue.step (h : s.Queue) {a : WatcherStep} (hok : s.inOrder a = true)
    (hs : s.step a = some s') : s'.Queue := by
  cases moves_of_step hs with
  | publish => exact .publish s _
  | runTask hi => exact h.runTask hi hok
  | _ => exact ⟨h.last, h.published⟩

/-- In a settled state the last value published is the one computed last, which is right. -/
theorem Settled.published (h : s.Settled) (hview : s.View) (hqueue : s.Queue) :
    s.published.getLast? = some (translate s.state s.failed) := by
  obtain ⟨state, failed, hlast, hstate, hfailed⟩ := hview.selecting h.selecting
  obtain ⟨t, ht, -⟩ := Option.map_eq_some_iff.mp (hqueue.last.trans hlast)
  have hdone : s.tasks.getLast?.any PublishTask.done = true := by
    simpa [ht] using h.tasks t (List.mem_of_getLast? ht)
  rw [(hqueue.published hdone).2, hlast, hstate h.state, hfailed h.failed]

/-- With the watcher subscribed, a step of the supervisor is a change of the state or none at all. -/
theorem follow_supervisor {t t' : Supervisor.Sys} {a : Supervisor.Action} (hs : Supervisor.Step t a t')
    (hrecv : 0 < s.stateWatch.receivers) (hrecv' : 0 < t.stateWatch.receivers)
    (hstate : s.state = t.state) (hversion : s.stateWatch.version = t.stateWatch.version) :
    ∃ s', (s' = s ∨ s.step (.changeState t'.state) = some s') ∧ s'.state = t'.state ∧
      s'.stateWatch.version = t'.stateWatch.version := by
  rcases hs.state_change with ⟨hsame, hseen⟩ | hsend
  · exact ⟨s, .inl rfl, by rw [hsame, hstate], by rw [hseen, hversion]⟩
  · refine ⟨_, .inr rfl, rfl, ?_⟩
    rw [hsend, Tokio.Watch.send_version _ _ hrecv', ← hversion]
    exact Tokio.Watch.send_version _ _ hrecv

end Watcher

/-- As long as the task spawned last overtakes no other with another value, the value published last
is that of the current state, once all tasks have run. -/
theorem published_of_inOrder {latch : Bool} {s : Watcher}
    (h : ReachableWhere (watcherSystem latch) (fun s a => s.inOrder a = true) s) (hs : s.Settled) :
    s.published.getLast? = some (translate s.state s.failed) := by
  have hview : s.View := h.induct (.new latch) fun _ _ _ _ _ hs hi => hi.step hs
  have hqueue : s.Queue := h.induct (.new latch) fun _ _ _ _ hok hs hi => hi.step hok hs
  exact hs.published hview hqueue

/-- The first value and the one after a connect, published one after the other. -/
theorem published_of_inOrder_connecting : ∃ s, Reachable (watcherSystem true) s ∧ s.Settled ∧
    s.tasks.length = 2 ∧ s.published.getLast? = some (translate s.state s.failed) := by
  obtain ⟨s, hr, hp⟩ := exists_reachableWhere_of_runWhere (watcherSystem true) Watcher.inOrder
    [.start, .snapshot, .borrow, .changeState .connecting, .stateChanged, .runTask 0, .snapshot,
      .borrow, .runTask 1]
    (fun s => decide (s.Settled ∧ s.tasks.length = 2)) (by decide)
  have hend := of_decide_eq_true hp
  exact ⟨s, hr.reachable, hend.1, hend.2, published_of_inOrder hr hend.1⟩

/-- The task that publishes `connecting` runs after the one that publishes `streaming`. -/
theorem not_published_overtaken : ¬ ∀ s, Reachable (watcherSystem true) s → s.Settled →
    s.published.getLast? = some (translate s.state s.failed) := by
  intro hall
  obtain ⟨s, hr, hp⟩ := exists_reachable_of_run (watcherSystem true)
    [.start, .snapshot, .borrow, .runTask 0, .changeState .connecting, .stateChanged, .snapshot,
      .borrow, .changeState .streaming, .stateChanged, .snapshot, .borrow, .runTask 2, .runTask 1]
    (fun s => decide (s.Settled ∧ s.published.getLast? = some "connecting" ∧
      translate s.state s.failed = "streaming")) (by decide)
  obtain ⟨hsettled, hlast, hnow⟩ := of_decide_eq_true hp
  have hpublished := hall s hr hsettled
  rw [hlast, hnow] at hpublished
  exact absurd hpublished (by decide)

end Buddy3dProxy.Mqtt
