import Buddy3dProxy.Mqtt.Commands
import Buddy3dProxy.Transition.Pool
import Buddy3dProxy.Transition.System

/-!
# Commands in flight

`Hub::run_event_loop` (`mqtt/hub.rs`) spawns a task for every message: it dispatches the command
(`mqtt/commands.rs`), over the live session's outbound channel or else over a transient connection
(`mqtt/transient.rs`), and then echoes the new value on the retained state topic.
-/

namespace Buddy3dProxy.Mqtt

open Transition

/-- Where the task of a message stands. -/
inductive TaskPc where
  /-- About to lock `live_outbound`. -/
  | dispatching
  /-- Sending on a clone of the sender it found. -/
  | sendingLive (conn : Nat)
  /-- `TransientSignaler::send`: getting the token and the configuration and connecting, about to send
  the subscribe trigger, in the pause after it with the command to send next, in the last pause. -/
  | connecting
  | subscribing
  | commanding
  | lingering
  /-- The dispatch has returned `Ok`. -/
  | echoing
  | finished
  /-- The dispatch has returned an error. -/
  | failed
  deriving DecidableEq, Repr

structure Task where
  cmd : Command
  pc : TaskPc
  deriving DecidableEq, Repr

/-- What the tasks did, in order. -/
inductive HubEntry where
  /-- The event of the command was put on the outbound channel of a connection to the camera. -/
  | submitted (cmd : Command)
  | echoed (setting : Setting) (value : String)
  deriving DecidableEq, Repr

structure Hub where
  topicPrefix : String
  /-- The connection whose sender `live_outbound` holds. -/
  live : Option Nat
  /-- For each live connection made so far, whether its outbound channel is open. -/
  channelOpen : List Bool
  /-- The tasks, in the order in which the messages arrived. -/
  tasks : List Task
  log : List HubEntry

inductive HubStep where
  /-- A message arrives. -/
  | message (topic : String) (payload : List UInt8)
  /-- A session registers its sender. -/
  | register
  | unregister
  /-- The transport of a live connection ends. -/
  | close (conn : Nat)
  /-- The next step of a task. -/
  | task (i : Nat)
  /-- The transient connection of a task fails. -/
  | fails (i : Nat)

namespace TaskPc

/-- The event has been submitted. -/
def hasSubmitted : TaskPc → Bool
  | lingering | echoing | finished => true
  | _ => false

/-- `TransientSignaler::send` may fail here. -/
def mayFail : TaskPc → Bool
  | connecting | subscribing | commanding => true
  | _ => false

end TaskPc

namespace Hub

def new (topicPrefix : String) : Hub := ⟨topicPrefix, none, [], [], []⟩

/-- The topic without the prefix of the camera, if it has it. -/
def suffix (s : Hub) (topic : String) : String :=
  match s.topicPrefix.toList.isPrefixOf? topic.toList with
  | some rest => String.ofList rest
  | none => topic

/-- Task `i` moves on to `pc`. -/
def moveTask (s : Hub) (i : Nat) (t : Task) (pc : TaskPc) : Hub :=
  { s with tasks := s.tasks.set i { t with pc } }

/-- Task `i` puts the event of its command on an outbound channel. -/
def submit (s : Hub) (i : Nat) (t : Task) (pc : TaskPc) : Hub :=
  { s.moveTask i t pc with log := s.log ++ [.submitted t.cmd] }

/-- Task `i` echoes. -/
def echo (s : Hub) (i : Nat) (t : Task) : Hub :=
  match t.cmd.echo with
  | some (setting, value) =>
    { s.moveTask i t .finished with log := s.log ++ [.echoed setting value] }
  | none => s.moveTask i t .finished

def taskStep (s : Hub) (i : Nat) (t : Task) : Option Hub :=
  match t.pc with
  | .dispatching =>
    match s.live with
    | some conn => some (s.moveTask i t (.sendingLive conn))
    | none => some (s.moveTask i t .connecting)
  | .sendingLive conn =>
    if s.channelOpen[conn]? = some true then some (s.submit i t .echoing)
    else some (s.moveTask i t .connecting)
  | .connecting => some (s.moveTask i t .subscribing)
  | .subscribing => some (s.moveTask i t .commanding)
  | .commanding => some (s.submit i t .lingering)
  | .lingering => some (s.moveTask i t .echoing)
  | .echoing => some (s.echo i t)
  | .finished | .failed => none

def step (s : Hub) : HubStep → Option Hub
  | .message topic payload =>
    match parse (s.suffix topic) payload with
    | some cmd => some { s with tasks := s.tasks ++ [⟨cmd, .dispatching⟩] }
    | none => some s
  | .register => some { s with live := some s.channelOpen.length, channelOpen := s.channelOpen ++ [true] }
  | .unregister => some { s with live := none }
  | .close conn => some { s with channelOpen := s.channelOpen.set conn false }
  | .task i =>
    match s.tasks[i]? with
    | some t => s.taskStep i t
    | none => none
  | .fails i =>
    match s.tasks[i]? with
    | some t => if t.pc.mayFail then some (s.moveTask i t .failed) else none
    | none => none

end Hub

/-- The runs of the hub. -/
def hubSystem (topicPrefix : String) : System Hub HubStep := ⟨.new topicPrefix, Hub.step⟩

/-- No dispatch fails. -/
def HubStep.succeeds : HubStep → Bool
  | .fails _ => false
  | _ => true

/-! ## Arrival, submission and echo -/

/-- The task sets `k`. -/
def Task.sets (k : Setting) (t : Task) : Bool := t.cmd.sets k

/-- The task sets `k`, and its event has been submitted. -/
def Task.hasSubmitted (k : Setting) (t : Task) : Bool := t.pc.hasSubmitted && t.sets k

/-- The commands for `k` that arrived, that were submitted and the values echoed, oldest first. -/
def arrived (k : Setting) (tasks : List Task) : List Command :=
  (tasks.filter (Task.sets k)).map Task.cmd

def submitted (k : Setting) (log : List HubEntry) : List Command :=
  log.filterMap fun
    | .submitted cmd => if cmd.sets k then some cmd else none
    | .echoed _ _ => none

def echoed (k : Setting) (log : List HubEntry) : List String :=
  log.filterMap fun
    | .submitted _ => none
    | .echoed setting value => if setting = k then some value else none

/-- The events go out in the order in which their messages arrived, and once all tasks have finished,
the value echoed last is that of the event submitted last. -/
structure Hub.Agrees (s : Hub) (cameraToken : String) (k : Setting) : Prop where
  order : (submitted k s.log).map (Command.outbound cameraToken) <+:
    (arrived k s.tasks).map (Command.outbound cameraToken)
  echo : (∀ t ∈ s.tasks, t.pc = .finished) →
    (echoed k s.log).getLast? = (submitted k s.log).getLast?.bind Command.value

/-- The commands set the same thing. -/
def Command.rivals (cmd cmd' : Command) : Bool :=
  [Setting.mode, .quality].any fun k => cmd.sets k && cmd'.sets k

/-- Every dispatch succeeds, and a message for a setting is taken only when the tasks of the earlier
messages for that setting have finished, but for those of the same value. -/
def Hub.takesInTurn (s : Hub) : HubStep → Bool
  | .fails _ => false
  | .message topic payload =>
    match parse (s.suffix topic) payload with
    | some cmd => s.tasks.all fun t => t.pc = .finished || t.cmd = cmd || !t.cmd.rivals cmd
    | none => true
  | _ => true

theorem Command.rivals_of_sets {cmd cmd' : Command} {k : Setting} (h : cmd.sets k = true)
    (h' : cmd'.sets k = true) : cmd.rivals cmd' = true := by
  refine List.any_eq_true.mpr ⟨k, ?_, by rw [h, h']; rfl⟩
  cases k <;> simp

/-! ## What a step can do -/

namespace Hub

variable {s s' : Hub} {i : Nat} {t : Task} {k : Setting}

/-- The ways a step that succeeds can go. -/
inductive Moves (s : Hub) : HubStep → Hub → Prop
  | arrive {topic : String} {payload : List UInt8} {cmd : Command}
      (hcmd : parse (s.suffix topic) payload = some cmd) :
      Moves s (.message topic payload) { s with tasks := s.tasks ++ [⟨cmd, .dispatching⟩] }
  /-- Nothing but the live connections changes. -/
  | elsewhere {a : HubStep} (live : Option Nat) (channelOpen : List Bool) :
      Moves s a { s with live, channelOpen }
  /-- A task moves on without a submission or an echo. -/
  | moves {i : Nat} {t : Task} {pc : TaskPc} (hi : s.tasks[i]? = some t)
      (hsame : pc.hasSubmitted = t.pc.hasSubmitted) (hpc : t.pc ≠ .finished) (hpc' : pc ≠ .finished)
      (hgoes : pc ≠ .failed) : Moves s (.task i) (s.moveTask i t pc)
  | submits {i : Nat} {t : Task} {pc : TaskPc} (hi : s.tasks[i]? = some t)
      (hbefore : t.pc.hasSubmitted = false) (hafter : pc.hasSubmitted = true) (hpc : pc ≠ .finished) :
      Moves s (.task i) (s.submit i t pc)
  | echoes {i : Nat} {t : Task} (hi : s.tasks[i]? = some t) (hpc : t.pc = .echoing) :
      Moves s (.task i) (s.echo i t)

theorem moves_of_taskStep (hi : s.tasks[i]? = some t) (hs : s.taskStep i t = some s') :
    Moves s (.task i) s' := by
  have hmove : ∀ {pc : TaskPc}, pc.hasSubmitted = t.pc.hasSubmitted → t.pc ≠ .finished →
      pc ≠ .finished ∧ pc ≠ .failed → s.moveTask i t pc = s' → Moves s (.task i) s' := by
    rintro pc hsame hpc ⟨hpc', hgoes⟩ rfl
    exact .moves hi hsame hpc hpc' hgoes
  unfold taskStep at hs
  cases hpc : t.pc with
  | dispatching =>
    cases hlive : s.live with
    | none =>
      simp only [hpc, hlive, Option.some.injEq] at hs
      exact hmove (by rw [hpc]; rfl) (by simp [hpc]) (by simp) hs
    | some conn =>
      simp only [hpc, hlive, Option.some.injEq] at hs
      exact hmove (by rw [hpc]; rfl) (by simp [hpc]) (by simp) hs
  | sendingLive conn =>
    by_cases hopen : s.channelOpen[conn]? = some true
    · simp only [hpc, if_pos hopen, Option.some.injEq] at hs
      exact hs ▸ .submits hi (by rw [hpc]; rfl) rfl (by simp)
    · simp only [hpc, if_neg hopen, Option.some.injEq] at hs
      exact hmove (by rw [hpc]; rfl) (by simp [hpc]) (by simp) hs
  | connecting =>
    simp only [hpc, Option.some.injEq] at hs
    exact hmove (by rw [hpc]; rfl) (by simp [hpc]) (by simp) hs
  | subscribing =>
    simp only [hpc, Option.some.injEq] at hs
    exact hmove (by rw [hpc]; rfl) (by simp [hpc]) (by simp) hs
  | commanding =>
    simp only [hpc, Option.some.injEq] at hs
    exact hs ▸ .submits hi (by rw [hpc]; rfl) rfl (by simp)
  | lingering =>
    simp only [hpc, Option.some.injEq] at hs
    exact hmove (by rw [hpc]; rfl) (by simp [hpc]) (by simp) hs
  | echoing =>
    simp only [hpc, Option.some.injEq] at hs
    exact hs ▸ .echoes hi hpc
  | finished | failed => simp [hpc] at hs

theorem moves_of_step {a : HubStep} (ha : a.succeeds = true) (hs : s.step a = some s') :
    Moves s a s' := by
  cases a with
  | message topic payload =>
    cases hcmd : parse (s.suffix topic) payload with
    | none =>
      simp only [Hub.step, hcmd, Option.some.injEq] at hs
      exact hs ▸ .elsewhere s.live s.channelOpen
    | some cmd =>
      simp only [Hub.step, hcmd, Option.some.injEq] at hs
      exact hs ▸ .arrive hcmd
  | register => exact Option.some.inj hs ▸ .elsewhere _ _
  | unregister => exact Option.some.inj hs ▸ .elsewhere _ _
  | close conn => exact Option.some.inj hs ▸ .elsewhere _ _
  | task i =>
    cases hi : s.tasks[i]? with
    | none => simp [Hub.step, hi] at hs
    | some t =>
      simp only [Hub.step, hi] at hs
      exact moves_of_taskStep hi hs
  | fails i => exact absurd ha (by simp [HubStep.succeeds])

theorem succeeds_of_takesInTurn {a : HubStep} (h : s.takesInTurn a = true) : a.succeeds = true := by
  cases a with
  | fails i => cases h
  | _ => rfl

/-! ## The order is kept -/

/-- The tasks for `k` take turns: behind one that has not finished stand only tasks of its value. So
what goes out is the beginning of what has arrived, whichever of them comes first. -/
structure Inv (s : Hub) (k : Setting) : Prop where
  turns : Pool.Turns (Task.sets k) (fun t => t.pc = .finished) Task.cmd s.tasks
  parsed : ∀ t ∈ s.tasks, t.sets k = true → ∃ value, t.cmd.echo = some (k, value) ∧
    t.cmd.value = some value
  log : submitted k s.log = (arrived k s.tasks).take (s.tasks.countP (Task.hasSubmitted k))
  echo : (∀ t ∈ s.tasks, t.sets k = true → t.pc = .finished) →
    (echoed k s.log).getLast? = (arrived k s.tasks).getLast?.bind Command.value

theorem submitted_snoc_submitted (k : Setting) (log : List HubEntry) (cmd : Command) :
    submitted k (log ++ [.submitted cmd]) =
      submitted k log ++ if cmd.sets k = true then [cmd] else [] := by
  by_cases hk : cmd.sets k = true <;> simp [submitted, hk]

@[simp] theorem submitted_snoc_echoed (k : Setting) (log : List HubEntry) (setting : Setting)
    (value : String) : submitted k (log ++ [.echoed setting value]) = submitted k log := by
  simp [submitted]

@[simp] theorem echoed_snoc_submitted (k : Setting) (log : List HubEntry) (cmd : Command) :
    echoed k (log ++ [.submitted cmd]) = echoed k log := by
  simp [echoed]

theorem echoed_snoc_echoed (k : Setting) (log : List HubEntry) (setting : Setting) (value : String) :
    echoed k (log ++ [.echoed setting value]) =
      echoed k log ++ if setting = k then [value] else [] := by
  by_cases hk : setting = k <;> simp [echoed, hk]

theorem echo_tasks (s : Hub) (i : Nat) (t : Task) :
    (s.echo i t).tasks = s.tasks.set i { t with pc := .finished } := by
  unfold Hub.echo
  split <;> rfl

theorem submitted_echo (s : Hub) (i : Nat) (t : Task) (k : Setting) :
    submitted k (s.echo i t).log = submitted k s.log := by
  unfold Hub.echo
  split
  · exact submitted_snoc_echoed _ _ _ _
  · rfl

theorem echoed_echo (s : Hub) (i : Nat) (t : Task) {value : String}
    (hvalue : t.cmd.echo = some (k, value)) :
    (echoed k (s.echo i t).log).getLast? = some value := by
  simp [Hub.echo, hvalue, echoed_snoc_echoed]

/-- An echo is not seen on the topic of another setting. -/
theorem echoed_echo_of_not_sets (s : Hub) (i : Nat) (t : Task) (hk : t.sets k = false) :
    echoed k (s.echo i t).log = echoed k s.log := by
  unfold Hub.echo
  split
  · rename_i setting value hvalue
    have hne : setting ≠ k := by
      rintro rfl
      exact absurd (sets_of_echo hvalue) (by simpa [Task.sets] using hk)
    simp [echoed_snoc_echoed, hne]
  · rfl

theorem arrived_set (hi : s.tasks[i]? = some t) (pc : TaskPc) :
    arrived k (s.tasks.set i { t with pc }) = arrived k s.tasks :=
  Pool.map_filter_set hi rfl fun _ => rfl

namespace Inv

theorem new (topicPrefix : String) : (Hub.new topicPrefix).Inv k where
  turns := .nil
  parsed := fun t ht => by cases ht
  log := rfl
  echo := fun _ => rfl

theorem arrive (h : s.Inv k) {topic : String} {payload : List UInt8} {cmd : Command}
    (hcmd : parse (s.suffix topic) payload = some cmd)
    (hok : s.takesInTurn (.message topic payload) = true) :
    Hub.Inv { s with tasks := s.tasks ++ [⟨cmd, .dispatching⟩] } k := by
  simp only [takesInTurn, hcmd, List.all_eq_true, Bool.or_eq_true, decide_eq_true_eq] at hok
  have hlen : s.tasks.countP (Task.hasSubmitted k) ≤ (arrived k s.tasks).length := by
    rw [arrived, List.length_map, ← List.countP_eq_length_filter]
    exact List.countP_mono_left fun t _ ht => (Bool.and_eq_true_iff.mp ht).2
  refine ⟨h.turns.snoc ?_, Pool.forall_append h.parsed fun hk => echo_of_parse hcmd hk, ?_, ?_⟩
  · intro hk t ht htk hpc
    rcases hok t ht with (hfinished | hsame) | hrivals
    · exact absurd hfinished (by simpa using hpc)
    · exact hsame.symm
    · rw [Command.rivals_of_sets htk hk] at hrivals
      cases hrivals
  · show submitted k s.log = (arrived k (s.tasks ++ [_])).take ((s.tasks ++ [_]).countP _)
    have hmore : arrived k (s.tasks ++ [⟨cmd, .dispatching⟩]) = arrived k s.tasks ++
        arrived k [⟨cmd, .dispatching⟩] := by
      rw [arrived, List.filter_append, List.map_append]
      rfl
    rw [h.log, hmore, List.countP_append]
    exact (List.take_append_of_le_length hlen).symm
  · intro hall
    have hk : Task.sets k ⟨cmd, .dispatching⟩ = false := by
      by_contra hk
      exact TaskPc.noConfusion (hall ⟨cmd, .dispatching⟩ (by simp) (by simpa using hk))
    have hsame : arrived k (s.tasks ++ [⟨cmd, .dispatching⟩]) = arrived k s.tasks := by
      simp [arrived, hk]
    rw [hsame]
    exact h.echo fun t ht => hall t (List.mem_append_left _ ht)

/-- A task moves on without a submission or an echo. -/
theorem moves (h : s.Inv k) {pc : TaskPc} (hi : s.tasks[i]? = some t)
    (hsame : pc.hasSubmitted = t.pc.hasSubmitted) (hpc : t.pc ≠ .finished) (hpc' : pc ≠ .finished) :
    (s.moveTask i t pc).Inv k := by
  have htask : Task.hasSubmitted k { t with pc } = t.hasSubmitted k := by
    rw [Task.hasSubmitted, hsame]
    rfl
  refine ⟨h.turns.set hi rfl rfl ?_, ?_, ?_, ?_⟩
  · simp [hpc]
  · exact Pool.forall_set h.parsed (h.parsed t (List.mem_of_getElem? hi))
  · rw [moveTask, arrived_set hi, Pool.countP_set_eq hi htask]
    exact h.log
  · rw [moveTask, arrived_set hi]
    intro hall
    refine h.echo (Pool.forall_of_forall_set hi (fun hnew hk => ?_) hall)
    exact absurd (hnew hk) hpc'

/-- Whichever of the tasks for `k` submits next, it is the value whose turn it is. -/
theorem submits (h : s.Inv k) {pc : TaskPc} (hi : s.tasks[i]? = some t)
    (hbefore : t.pc.hasSubmitted = false) (hafter : pc.hasSubmitted = true) (hpc : pc ≠ .finished) :
    (s.submit i t pc).Inv k := by
  have hmem := List.mem_of_getElem? hi
  have hne : t.pc ≠ .finished := by
    intro hfinished
    rw [hfinished] at hbefore
    cases hbefore
  have hpre : t.hasSubmitted k = false := by rw [Task.hasSubmitted, hbefore]; rfl
  have hpost : Task.hasSubmitted k { t with pc } = t.sets k := by
    rw [Task.hasSubmitted, hafter]
    rfl
  refine ⟨h.turns.set hi rfl rfl ?_, ?_, ?_, ?_⟩
  · simp [hne]
  · exact Pool.forall_set h.parsed (h.parsed t hmem)
  · show submitted k (s.log ++ [.submitted t.cmd]) = (arrived k (s.tasks.set i _)).take _
    rw [submitted_snoc_submitted, h.log, arrived_set hi]
    by_cases hk : t.sets k = true
    · have hturn : Pool.Turns (Task.sets k) (fun t => t.pc.hasSubmitted) Task.cmd s.tasks := by
        refine h.turns.mono fun u hu => decide_eq_false fun hfinished => ?_
        rw [hfinished] at hu
        cases hu
      have hcount := Pool.countP_set_gain hi hpre (hpost.trans hk)
      rw [if_pos (show t.cmd.sets k = true from hk), submit, moveTask, hcount]
      exact (hturn.take_succ hmem hk hbefore).symm
    · have hk : t.sets k = false := by simpa using hk
      rw [if_neg (show ¬ t.cmd.sets k = true from by simpa [Task.sets] using hk), List.append_nil,
        submit, moveTask, Pool.countP_set_eq hi (by rw [hpost, hpre, hk])]
  · show _ → (echoed k (s.log ++ [.submitted t.cmd])).getLast? = (arrived k (s.tasks.set i _)).getLast?.bind _
    rw [echoed_snoc_submitted, arrived_set hi]
    intro hall
    refine h.echo (Pool.forall_of_forall_set hi (fun hnew hk => ?_) hall)
    exact absurd (hnew hk) hpc

/-- A task echoes: if it sets `k`, no other value for `k` has arrived since. -/
theorem echoes (h : s.Inv k) (hi : s.tasks[i]? = some t) (hpc : t.pc = .echoing) :
    (s.echo i t).Inv k := by
  have htasks := s.echo_tasks i t
  have hmem := List.mem_of_getElem? hi
  have htask : Task.hasSubmitted k { t with pc := .finished } = t.hasSubmitted k := by
    rw [Task.hasSubmitted, Task.hasSubmitted, hpc]
    rfl
  refine ⟨?_, ?_, ?_, ?_⟩
  · rw [htasks]
    exact h.turns.set hi rfl rfl (by simp)
  · rw [htasks]
    exact Pool.forall_set h.parsed (h.parsed t hmem)
  · rw [s.submitted_echo, htasks, arrived_set hi, Pool.countP_set_eq hi htask]
    exact h.log
  · rw [htasks, arrived_set hi]
    intro hall
    by_cases hk : t.sets k = true
    · obtain ⟨value, hecho, hvalue⟩ := h.parsed t hmem hk
      rw [s.echoed_echo i t hecho, arrived, h.turns.getLast? hmem hk (by simp [hpc])]
      exact hvalue.symm
    · rw [s.echoed_echo_of_not_sets i t (by simpa using hk)]
      exact h.echo (Pool.forall_of_forall_set hi (fun _ htk => absurd htk hk) hall)

theorem step (h : s.Inv k) {a : HubStep} (hok : s.takesInTurn a = true) (hs : s.step a = some s') :
    s'.Inv k := by
  cases moves_of_step (succeeds_of_takesInTurn hok) hs with
  | arrive hcmd => exact h.arrive hcmd hok
  | elsewhere => exact ⟨h.turns, h.parsed, h.log, h.echo⟩
  | moves hi hsame hpc hpc' _ => exact h.moves hi hsame hpc hpc'
  | submits hi hbefore hafter hpc => exact h.submits hi hbefore hafter hpc
  | echoes hi hpc => exact h.echoes hi hpc

/-- The invariant gives what is promised of the commands for `k`. -/
theorem agrees (h : s.Inv k) (cameraToken : String) : s.Agrees cameraToken k where
  order := by
    rw [h.log]
    exact (List.take_prefix _ _).map _
  echo := by
    intro hall
    have hcount : s.tasks.countP (Task.hasSubmitted k) = (arrived k s.tasks).length := by
      rw [arrived, List.length_map, ← List.countP_eq_length_filter]
      refine List.countP_congr fun t ht => ?_
      rw [Task.hasSubmitted, hall t ht]
      exact Iff.rfl
    rw [h.log, hcount, List.take_length]
    exact h.echo fun t ht _ => hall t ht

end Inv

theorem inv_of_takesInTurn {topicPrefix : String}
    (h : ReachableWhere (hubSystem topicPrefix) (fun s a => s.takesInTurn a = true) s) : s.Inv k :=
  h.induct (P := fun s => s.Inv k) (.new topicPrefix) fun _ _ _ _ hok hs hi => hi.step hok hs

end Hub

/-- As long as dispatches succeed and a message for a setting is taken only when the earlier ones for it,
but for those of the same value, are done, the events for the setting go out in the order in which the
messages arrived, and the value echoed last is the one submitted last: whichever way the commands go,
and in whatever order the tasks run. -/
theorem agrees_of_takesInTurn {topicPrefix : String} {s : Hub}
    (h : ReachableWhere (hubSystem topicPrefix) (fun s a => s.takesInTurn a = true) s)
    (cameraToken : String) (k : Setting) : s.Agrees cameraToken k :=
  (Hub.inv_of_takesInTurn h).agrees cameraToken

def day : HubStep := .message "buddy3d/cam/mode/set" [68, 97, 121]
def night : HubStep := .message "buddy3d/cam/mode/set" [78, 105, 103, 104, 116]

/-- "Day" twice, of which the second overtakes the first, and "Night" when both are done. -/
theorem agrees_of_takesInTurn_night : ∃ s, Reachable (hubSystem "buddy3d/cam/") s ∧
    echoed .mode s.log = ["Day", "Day", "Night"] ∧ s.Agrees "token" .mode := by
  obtain ⟨s, hr, hp⟩ := exists_reachableWhere_of_runWhere (hubSystem "buddy3d/cam/") Hub.takesInTurn
    [day, .task 0, .register, day, .task 1, .task 1, .task 1, .task 0, .task 0, .task 0, .task 0, .task 0,
      night, .task 2, .task 2, .task 2]
    (fun s => decide (echoed .mode s.log = ["Day", "Day", "Night"])) (by decide +kernel)
  exact ⟨s, hr.reachable, of_decide_eq_true hp, agrees_of_takesInTurn hr "token" .mode⟩

/-- The first command goes over a transient connection, and meanwhile a session comes up that carries
the second one. -/
theorem not_agrees_overtaken : ¬ ∀ s,
    ReachableWhere (hubSystem "buddy3d/cam/") (fun _ a => a.succeeds = true) s →
      s.Agrees "token" .mode := by
  intro hall
  obtain ⟨s, hr, hp⟩ := exists_reachableWhere_of_runWhere (hubSystem "buddy3d/cam/")
    (fun _ a => a.succeeds)
    [day, night, .task 0, .task 0, .register, .task 1, .task 1, .task 1, .task 0, .task 0, .task 0,
      .task 0]
    (fun s => decide (submitted .mode s.log = [.setMode 3, .setMode 2] ∧
      arrived .mode s.tasks = [.setMode 2, .setMode 3])) (by decide +kernel)
  obtain ⟨hsubmitted, harrived⟩ := of_decide_eq_true hp
  have horder := (hall s hr).order
  rw [hsubmitted, harrived] at horder
  have hfirst := (List.cons_prefix_cons.mp horder).1
  exact absurd (Command.outbound_inj hfirst) (by decide)

end Buddy3dProxy.Mqtt
