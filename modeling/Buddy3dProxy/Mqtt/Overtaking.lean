import Buddy3dProxy.Mqtt.Hub
import Buddy3dProxy.Transition.Paths

/-!
# Messages out of turn

Where a message is taken while the task of an earlier one for the same setting has another value still to
send or to echo, the tasks can go on, with no dispatch failing, so that the events are out of order or the
value echoed last is not the one submitted last. So `takesInTurn` asks no more of the order of messages
than it must.
-/

namespace Buddy3dProxy.Mqtt

open Transition

/-- How many steps a task is from its end, at most. -/
def TaskPc.left : TaskPc → Nat
  | dispatching => 7
  | sendingLive _ => 6
  | connecting => 5
  | subscribing => 4
  | commanding => 3
  | lingering => 2
  | echoing => 1
  | finished => 0
  | failed => 0

namespace Hub

variable {topicPrefix : String} {s s' s'' : Hub} {i : Nat} {t : Task} {k : Setting}

/-! ## What holds as long as dispatches succeed -/

theorem going_of_reachable
    (h : ReachableWhere (hubSystem topicPrefix) (fun _ a => a.succeeds = true) s) :
    ∀ t ∈ s.tasks, t.pc ≠ .failed := by
  refine h.induct (P := fun s => ∀ t ∈ s.tasks, t.pc ≠ .failed) (fun t ht => by cases ht) ?_
  intro s a s' _ ha hs hgoing
  cases moves_of_step ha hs with
  | arrive => exact Pool.forall_append hgoing TaskPc.noConfusion
  | elsewhere => exact hgoing
  | moves _ _ _ _ hgoes => exact Pool.forall_set hgoing hgoes
  | @submits i t pc _ _ hafter =>
    refine Pool.forall_set hgoing ?_
    rintro rfl
    cases hafter
  | echoes =>
    rw [echo_tasks]
    exact Pool.forall_set hgoing TaskPc.noConfusion

/-- Each task submits once. -/
theorem length_submitted_of_reachable
    (h : ReachableWhere (hubSystem topicPrefix) (fun _ a => a.succeeds = true) s) :
    (submitted k s.log).length = s.tasks.countP (Task.hasSubmitted k) := by
  refine h.induct (P := fun s => (submitted k s.log).length = s.tasks.countP (Task.hasSubmitted k)) rfl ?_
  intro s a s' _ ha hs hcount
  cases moves_of_step ha hs with
  | arrive =>
    rw [List.countP_append, ← hcount]
    rfl
  | elsewhere => exact hcount
  | @moves i t pc hi hsame =>
    have htask : Task.hasSubmitted k { t with pc } = t.hasSubmitted k := by
      rw [Task.hasSubmitted, hsame]
      rfl
    rw [moveTask, Pool.countP_set_eq hi htask]
    exact hcount
  | @submits i t pc hi hbefore hafter =>
    have hset := Pool.countP_set (p := Task.hasSubmitted k) (b := { t with pc }) hi
    have hpre : t.hasSubmitted k = false := by rw [Task.hasSubmitted, hbefore]; rfl
    have hpost : Task.hasSubmitted k { t with pc } = t.cmd.sets k := by
      rw [Task.hasSubmitted, hafter]
      rfl
    show (submitted k (s.log ++ [.submitted t.cmd])).length = (s.tasks.set i { t with pc }).countP _
    rw [submitted_snoc_submitted, List.length_append, hcount]
    rw [hpre, hpost] at hset
    by_cases hk : t.cmd.sets k = true <;> simp [hk] at hset ⊢ <;> omega
  | @echoes i t hi hpc =>
    have htask : Task.hasSubmitted k { t with pc := .finished } = t.hasSubmitted k := by
      rw [Task.hasSubmitted, Task.hasSubmitted, hpc]
      rfl
    rw [submitted_echo, echo_tasks, Pool.countP_set_eq hi htask]
    exact hcount

/-! ## Tasks run to their end -/

/-- The hub can get there, and no dispatch fails on the way. -/
def Leads (topicPrefix : String) (s s' : Hub) : Prop :=
  ∃ as, PathWhere (hubSystem topicPrefix) (fun _ a => a.succeeds = true) s as s'

theorem Leads.refl (s : Hub) : Leads topicPrefix s s := ⟨[], .nil s⟩

theorem Leads.trans (h : Leads topicPrefix s s') (h' : Leads topicPrefix s' s'') :
    Leads topicPrefix s s'' := by
  obtain ⟨as, hp⟩ := h
  obtain ⟨bs, hq⟩ := h'
  exact ⟨as ++ bs, hp.append hq⟩

theorem Leads.reachable (h : Leads topicPrefix s s')
    (hr : ReachableWhere (hubSystem topicPrefix) (fun _ a => a.succeeds = true) s) :
    ReachableWhere (hubSystem topicPrefix) (fun _ a => a.succeeds = true) s' := by
  obtain ⟨as, hp⟩ := h
  exact hp.reachableWhere hr

theorem Leads.step {a : HubStep} (ha : a.succeeds = true) (hs : s.step a = some s') :
    Leads topicPrefix s s' := ⟨[a], .snoc (.nil s) ha hs⟩

/-- A task that has neither finished nor failed can take a step towards its end; the last one echoes. -/
theorem exists_taskStep (s : Hub) (i : Nat) (hpc : t.pc ≠ .finished) (hgoing : t.pc ≠ .failed) :
    ∃ pc, pc ≠ .failed ∧ pc.left < t.pc.left ∧
      (s.taskStep i t = some (s.echo i t) ∧ pc = .finished ∨
        pc ≠ .finished ∧ ∃ s', s.taskStep i t = some s' ∧ s'.tasks = s.tasks.set i { t with pc }) := by
  unfold taskStep
  cases hat : t.pc with
  | dispatching =>
    cases hlive : s.live with
    | none => exact ⟨.connecting, by simp, by simp [TaskPc.left], .inr ⟨by simp, _, rfl, rfl⟩⟩
    | some conn => exact ⟨.sendingLive conn, by simp, by simp [TaskPc.left], .inr ⟨by simp, _, rfl, rfl⟩⟩
  | sendingLive conn =>
    by_cases hopen : s.channelOpen[conn]? = some true
    · exact ⟨.echoing, by simp, by simp [TaskPc.left], .inr ⟨by simp, _, if_pos hopen, rfl⟩⟩
    · exact ⟨.connecting, by simp, by simp [TaskPc.left], .inr ⟨by simp, _, if_neg hopen, rfl⟩⟩
  | connecting => exact ⟨.subscribing, by simp, by simp [TaskPc.left], .inr ⟨by simp, _, rfl, rfl⟩⟩
  | subscribing => exact ⟨.commanding, by simp, by simp [TaskPc.left], .inr ⟨by simp, _, rfl, rfl⟩⟩
  | commanding => exact ⟨.lingering, by simp, by simp [TaskPc.left], .inr ⟨by simp, _, rfl, rfl⟩⟩
  | lingering => exact ⟨.echoing, by simp, by simp [TaskPc.left], .inr ⟨by simp, _, rfl, rfl⟩⟩
  | echoing => exact ⟨.finished, by simp, by simp [TaskPc.left], .inl ⟨rfl, rfl⟩⟩
  | finished => exact absurd hat hpc
  | failed => exact absurd hat hgoing

/-- A task can run to its end while the others stand still, and then it is the last to have echoed. -/
theorem exists_finished (hi : s.tasks[i]? = some t) (hpc : t.pc ≠ .finished) (hgoing : t.pc ≠ .failed) :
    ∃ s', Leads topicPrefix s s' ∧ s'.tasks = s.tasks.set i { t with pc := .finished } ∧
      ∀ value, t.cmd.echo = some (k, value) → (echoed k s'.log).getLast? = some value := by
  -- by induction on how far the task is from its end
  generalize hn : t.pc.left = n
  induction n using Nat.strong_induction_on generalizing s t with
  | h n ih =>
    have hstep : s.step (.task i) = s.taskStep i t := by rw [Hub.step, hi]
    obtain ⟨pc, hpc', hleft, ⟨hs, -⟩ | ⟨hpc'', s₁, hs, htasks⟩⟩ := s.exists_taskStep i hpc hgoing
    · exact ⟨s.echo i t, .step rfl (hstep.trans hs), s.echo_tasks i t, fun _ => s.echoed_echo i t⟩
    · have hi₁ : s₁.tasks[i]? = some { t with pc } := by
        rw [htasks]
        exact Pool.getElem?_set_self hi
      obtain ⟨s₂, hleads, htasks₂, hecho⟩ := ih _ (hn ▸ hleft) hi₁ hpc'' hpc' rfl
      refine ⟨s₂, (Leads.step rfl (hstep.trans hs)).trans hleads, ?_, hecho⟩
      rw [htasks₂, htasks, List.set_set]

theorem map_cmd_set {tasks : List Task} (hi : tasks[i]? = some t) (pc : TaskPc) :
    (tasks.set i { t with pc }).map Task.cmd = tasks.map Task.cmd := by
  have hkept := Pool.map_filter_set (p := fun _ => true) (f := Task.cmd) hi (b := { t with pc }) rfl
    fun _ => rfl
  simpa using hkept

/-- All tasks but one can run to their end. -/
theorem exists_others_finished
    (hr : ReachableWhere (hubSystem topicPrefix) (fun _ a => a.succeeds = true) s) (i n : Nat) :
    ∃ s', Leads topicPrefix s s' ∧ s'.tasks.map Task.cmd = s.tasks.map Task.cmd ∧
      s'.tasks[i]? = s.tasks[i]? ∧ ∀ j u, j < n → j ≠ i → s'.tasks[j]? = some u → u.pc = .finished := by
  induction n with
  | zero => exact ⟨s, .refl s, rfl, rfl, fun _ _ h => absurd h (Nat.not_lt_zero _)⟩
  | succ n ih =>
    obtain ⟨s₁, hleads, hcmd, hkept, hdone⟩ := ih
    by_cases hstands : n ≠ i ∧ ∃ t, s₁.tasks[n]? = some t ∧ t.pc ≠ .finished
    · obtain ⟨hne, t, hn, hpc⟩ := hstands
      have hgoing := going_of_reachable (hleads.reachable hr) t (List.mem_of_getElem? hn)
      obtain ⟨s₂, hleads₂, htasks, -⟩ : ∃ s₂, Leads topicPrefix s₁ s₂ ∧ s₂.tasks = _ ∧ _ :=
        exists_finished (k := .mode) hn hpc hgoing
      refine ⟨s₂, hleads.trans hleads₂, ?_, ?_, ?_⟩
      · rw [htasks, ← hcmd]
        exact map_cmd_set hn .finished
      · rw [htasks, List.getElem?_set_ne hne, hkept]
      · intro j u hj hji hu
        rw [htasks] at hu
        rcases Pool.getElem?_set_cases hu with ⟨rfl, rfl⟩ | ⟨hjn, hu⟩
        · rfl
        · exact hdone j u (by omega) hji hu
    · refine ⟨s₁, hleads, hcmd, hkept, fun j u hj hji hu => ?_⟩
      by_cases hjn : j = n
      · subst hjn
        by_contra hpc
        exact hstands ⟨hji, u, hu, hpc⟩
      · exact hdone j u (by omega) hji hu

/-! ## A message out of turn -/

/-- The commands that arrived, read off the commands of the tasks. -/
theorem arrived_eq (k : Setting) (tasks : List Task) :
    arrived k tasks = (tasks.map Task.cmd).filter (Command.sets k) := by
  rw [arrived, List.filter_map]
  rfl

/-- When all tasks are done and have submitted in order, the last echo is that of the last command. -/
theorem getLast?_echoed {cameraToken : String}
    (hr : ReachableWhere (hubSystem topicPrefix) (fun _ a => a.succeeds = true) s)
    (hagrees : s.Agrees cameraToken k) (hall : ∀ t ∈ s.tasks, t.pc = .finished) :
    (echoed k s.log).getLast? = (arrived k s.tasks).getLast?.bind Command.value := by
  have hlen : (submitted k s.log).length = (arrived k s.tasks).length := by
    rw [length_submitted_of_reachable hr, arrived, List.length_map, ← List.countP_eq_length_filter]
    refine List.countP_congr fun t ht => ?_
    rw [Task.hasSubmitted, hall t ht]
    exact Iff.rfl
  have hsame := hagrees.order.eq_of_length (by rw [List.length_map, List.length_map, hlen])
  have hinj : Function.Injective (Command.outbound cameraToken) := fun _ _ => Command.outbound_inj
  rw [hagrees.echo hall, List.map_injective_iff.mpr hinj hsame]

/-- A message that is not taken in turn has a task ahead of it with another value for the same setting. -/
theorem exists_ahead {topic : String} {payload : List UInt8}
    (hout : s.takesInTurn (.message topic payload) = false) :
    ∃ (cmd : Command) (k : Setting) (i : Nat) (t : Task), parse (s.suffix topic) payload = some cmd ∧
      cmd.sets k = true ∧ s.tasks[i]? = some t ∧ t.sets k = true ∧ t.pc ≠ .finished ∧ t.cmd ≠ cmd := by
  cases hcmd : parse (s.suffix topic) payload with
  | none => simp [takesInTurn, hcmd] at hout
  | some cmd =>
    simp only [takesInTurn, hcmd, List.all_eq_false, Bool.or_eq_true, decide_eq_true_eq, not_or] at hout
    obtain ⟨t, ht, ⟨hpc, hne⟩, hrivals⟩ := hout
    obtain ⟨k, -, hk⟩ := List.any_eq_true.mp (show t.cmd.rivals cmd = true by simpa using hrivals)
    obtain ⟨i, hi⟩ := List.mem_iff_getElem?.mp ht
    obtain ⟨htk, hk⟩ := Bool.and_eq_true_iff.mp hk
    exact ⟨cmd, k, i, t, rfl, hk, hi, htk, hpc, hne⟩

/-- After a message that is not taken in turn the tasks can go on, without a dispatch failing, so that the
events are out of order or the value echoed last is not the one submitted last. -/
theorem exists_not_agrees {topic : String} {payload : List UInt8}
    (hr : ReachableWhere (hubSystem topicPrefix) (fun s a => s.takesInTurn a = true) s)
    (hout : s.takesInTurn (.message topic payload) = false)
    (hs : s.step (.message topic payload) = some s') (cameraToken : String) :
    ∃ k s'', Leads topicPrefix s' s'' ∧ ¬ s''.Agrees cameraToken k := by
  obtain ⟨cmd, k, i, t, hcmd, hk, hi, htk, hpc, hne⟩ := exists_ahead hout
  obtain ⟨early, hecho, hearly⟩ := (inv_of_takesInTurn hr).parsed t (List.mem_of_getElem? hi) htk
  obtain ⟨late, -, hlate⟩ := echo_of_parse hcmd hk
  have hgoes := hr.mono fun s a => succeeds_of_takesInTurn
  have hr' : ReachableWhere (hubSystem topicPrefix) (fun _ a => a.succeeds = true) s' :=
    .step (a := .message topic payload) hgoes rfl hs
  have htasks : s'.tasks = s.tasks ++ [⟨cmd, .dispatching⟩] := by
    simp only [Hub.step, hcmd, Option.some.injEq] at hs
    rw [← hs]
  -- all the others finish first, the new one among them, and only then the one it has overtaken
  obtain ⟨s₁, hleads₁, hcmd₁, hi₁, hdone⟩ := exists_others_finished hr' i s'.tasks.length
  rw [htasks, Pool.getElem?_append_of_some hi] at hi₁
  obtain ⟨s₂, hleads₂, htasks₂, hlast⟩ :=
    exists_finished hi₁ hpc (going_of_reachable hgoes t (List.mem_of_getElem? hi))
  have hlength : s₁.tasks.length = s'.tasks.length := by simpa using congrArg List.length hcmd₁
  have hall : ∀ u ∈ s₂.tasks, u.pc = .finished := by
    intro u hu
    obtain ⟨j, hj⟩ := List.mem_iff_getElem?.mp hu
    rw [htasks₂] at hj
    rcases Pool.getElem?_set_cases hj with ⟨-, rfl⟩ | ⟨hji, hj⟩
    · rfl
    · exact hdone j u (hlength ▸ (List.getElem?_eq_some_iff.mp hj).1) hji hj
  refine ⟨k, s₂, hleads₁.trans hleads₂, fun hagrees => hne ?_⟩
  have hend := getLast?_echoed ((hleads₁.trans hleads₂).reachable hr') hagrees hall
  rw [hlast early hecho, arrived_eq, htasks₂, map_cmd_set hi₁, hcmd₁, htasks] at hend
  have hvalue : cmd.value = some early := by simpa [hk] using hend.symm
  exact Command.value_inj htk hk hearly hvalue

end Hub

end Buddy3dProxy.Mqtt
