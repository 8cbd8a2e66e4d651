import Buddy3dProxy.Mqtt.Discovery
import Buddy3dProxy.Mqtt.State
import Buddy3dProxy.Transition.Paths

/-!
# The MQTT subsystem

The tasks that `main.rs` starts for MQTT around one `rumqttc` client, and the retained messages on the
broker. All of them send their requests on the client's channel of 64 slots, and a send waits until a slot
is free. Only `EventLoop::poll` takes requests out of the channel, and only `Hub::run_event_loop`
polls; on a `ConnAck` it announces before it polls again.
-/

namespace Buddy3dProxy.Mqtt

open Supervisor (State)
open Transition

/-- Where `run_event_loop` stands. -/
inductive LoopPc where
  /-- In `poll`. -/
  | polling
  /-- In `announce`, with the requests it has still to send. -/
  | announcing (left : List Request)
  /-- In the pause after an error. -/
  | pausing
  deriving DecidableEq, Repr

structure Subsystem where
  loop : LoopPc
  hub : Hub
  /-- The state watcher and the tasks that publish its values. -/
  watcher : Watcher
  /-- What the camera-status watcher has still to send for the status it has read. -/
  status : List Request
  /-- The requests in the channel, oldest first. -/
  requests : List Request
  /-- The requests that `poll` took out of the channel and keeps until they are acknowledged. -/
  taken : List Request
  /-- The retained messages on the broker, the latest first. -/
  retained : List (String × Payload)

inductive SubsystemStep where
  | connAck
  /-- The next request of an announcement. -/
  | announce
  /-- `poll` returns an error. -/
  | error
  | resume
  /-- `poll` returns a message. -/
  | message (topic : String) (payload : List UInt8)
  /-- A step of a task of the hub or of the rest of the process. -/
  | hub (a : HubStep)
  | watcher (a : WatcherStep)
  | readStatus (caps : Capabilities)
  | sendStatus
  | snapshot (jpeg : List UInt8)
  /-- `poll` takes a request out of the channel, the broker gets one of those taken, perhaps again, and
  one is acknowledged or given up. -/
  | take
  | reach (i : Nat)
  | settle (i : Nat)
  /-- The broker publishes the last will. -/
  | will

namespace Subsystem

/-- The slots of the channel, as in `AsyncClient::new(opts, 64)`. -/
def capacity : Nat := 64

def new (id : DeviceIdentity) (latch : Bool) : Subsystem :=
  ⟨.polling, id.hub, .new latch, [], [], [], []⟩

/-- The requests are sent, once all of them have a slot. -/
def send (s : Subsystem) (rs : List Request) : Option Subsystem :=
  if s.requests.length + rs.length ≤ capacity then some { s with requests := s.requests ++ rs } else none

/-- What the tasks of the hub have published between two states. -/
def echoes (id : DeviceIdentity) (before after : Hub) : List Request :=
  (after.log.drop before.log.length).filterMap fun
    | .submitted _ => none
    | .echoed k value => some (id.publishSetting k value)

/-- What the state watcher has published between two states. -/
def states (id : DeviceIdentity) (before after : Watcher) : List Request :=
  (after.published.drop before.published.length).map id.publishState

/-- The broker gets a request. -/
def broker (s : Subsystem) : Request → Subsystem
  | .publish topic true payload => { s with retained := (topic, payload) :: s.retained }
  | .publish _ false _ | .subscribe _ => s

def step (id : DeviceIdentity) (pkgVersion : String) (s : Subsystem) : SubsystemStep → Option Subsystem
  | .connAck => if s.loop = .polling then some { s with loop := .announcing id.announce } else none
  | .announce =>
    match s.loop with
    | .announcing (r :: left) =>
      { s with loop := if left = [] then .polling else .announcing left }.send [r]
    | _ => none
  | .error => if s.loop = .polling then some { s with loop := .pausing } else none
  | .resume => if s.loop = .pausing then some { s with loop := .polling } else none
  | .message topic payload =>
    if s.loop = .polling then
      (s.hub.step (.message topic payload)).map fun hub => { s with hub }
    else none
  | .hub (.message _ _) => none
  | .hub a =>
    match s.hub.step a with
    | some hub => { s with hub }.send (echoes id s.hub hub)
    | none => none
  | .watcher a =>
    match s.watcher.step a with
    | some watcher => { s with watcher }.send (states id s.watcher watcher)
    | none => none
  | .readStatus caps =>
    if s.status = [] then some { s with status := statusRequests id pkgVersion caps } else none
  | .sendStatus =>
    match s.status with
    | r :: rest => { s with status := rest }.send [r]
    | [] => none
  | .snapshot jpeg => s.send [id.publishSnapshot jpeg]
  | .take =>
    match s.loop, s.requests with
    | .polling, r :: rest => some { s with requests := rest, taken := s.taken ++ [r] }
    | _, _ => none
  | .reach i => if s.loop = .polling then (s.taken[i]?).map s.broker else none
  | .settle i => if s.loop = .polling then some { s with taken := s.taken.eraseIdx i } else none
  | .will => some (s.broker (.publish (id.topic "availability") true (.text "offline")))

end Subsystem

/-- The runs of the subsystem. -/
def subsystem (id : DeviceIdentity) (pkgVersion : String) (latch : Bool) :
    System Subsystem SubsystemStep :=
  ⟨.new id latch, Subsystem.step id pkgVersion⟩

/-! ## What is published -/

/-- The options of a setting. -/
def Setting.options : Setting → List String
  | mode => ["Auto", "Day", "Night"]
  | quality => ["SD", "HD", "FHD"]

/-- The requests that the tasks send. -/
inductive Sends (id : DeviceIdentity) : Request → Prop where
  | config {swVersion : String} {m : DiscoveryMessage} (hm : m ∈ all { id with swVersion }) :
      Sends id m.request
  | availability {value : String} (hvalue : value = "online" ∨ value = "offline") :
      Sends id (.publish (id.topic "availability") true (.text value))
  | state (state : State) (failed : Bool) : Sends id (id.publishState (translate state failed))
  | setting (k : Setting) {value : String} (hvalue : value ∈ k.options) :
      Sends id (id.publishSetting k value)
  | snapshot (jpeg : List UInt8) : Sends id (id.publishSnapshot jpeg)
  | subscribe (topic : String) : Sends id (.subscribe topic)

variable {id : DeviceIdentity} {pkgVersion : String} {latch : Bool}

theorem mem_options_of_echo {cmd : Command} {k : Setting} {value : String}
    (h : cmd.echo = some (k, value)) : value ∈ k.options := by
  unfold Command.echo at h
  repeat' split at h
  all_goals cases h
  all_goals decide

theorem sends_announce : ∀ r ∈ id.announce, Sends id r := by
  intro r hr
  rw [DeviceIdentity.announce, List.mem_append, List.mem_cons] at hr
  rcases hr with hr | rfl | hr
  · obtain ⟨m, hm, rfl⟩ := List.mem_map.mp hr
    exact @Sends.config id id.swVersion m hm
  · exact .availability (.inl rfl)
  · obtain ⟨sub, -, rfl⟩ := List.mem_map.mp hr
    exact .subscribe _

theorem sends_statusRequests (caps : Capabilities) : ∀ r ∈ statusRequests id pkgVersion caps, Sends id r := by
  intro r hr
  rw [statusRequests, List.mem_append] at hr
  rcases hr with hr | hr
  · split at hr
    · cases hr
    · obtain ⟨m, hm, rfl⟩ := List.mem_map.mp hr
      exact .config hm
  · split at hr
    · cases hr
    · rename_i mode quality _
      rw [List.mem_append, Option.mem_toList, Option.mem_toList, Option.map_eq_some_iff,
        Option.map_eq_some_iff] at hr
      rcases hr with ⟨value, hvalue, rfl⟩ | ⟨value, hvalue, rfl⟩
      · refine .setting .mode ?_
        unfold modeName at hvalue
        repeat' split at hvalue
        all_goals cases hvalue
        all_goals decide
      · refine .setting .quality ?_
        unfold qualityName at hvalue
        repeat' split at hvalue
        all_goals cases hvalue
        all_goals decide

namespace Hub

variable {s s' : Hub}

/-- A step of the hub leaves the prefix, and adds at most one entry to the log: an echo is that of a
command. -/
theorem log_of_step {a : HubStep} (hs : s.step a = some s') :
    s'.topicPrefix = s.topicPrefix ∧ (s'.log = s.log ∨ ∃ x, s'.log = s.log ++ [x] ∧
      ∀ k value, x = .echoed k value → ∃ cmd : Command, cmd.echo = some (k, value)) := by
  cases ha : a.succeeds with
  | false =>
    obtain ⟨i, rfl⟩ : ∃ i, a = .fails i := by
      cases a <;> first | exact ⟨_, rfl⟩ | cases ha
    simp only [Hub.step] at hs
    split at hs
    · rw [Option.ite_none_right_eq_some] at hs
      obtain rfl := Option.some.inj hs.2
      exact ⟨rfl, .inl rfl⟩
    · cases hs
  | true =>
    cases moves_of_step ha hs with
    | arrive => exact ⟨rfl, .inl rfl⟩
    | elsewhere => exact ⟨rfl, .inl rfl⟩
    | moves => exact ⟨rfl, .inl rfl⟩
    | submits => exact ⟨rfl, .inr ⟨_, rfl, by simp⟩⟩
    | @echoes i t _ _ =>
      unfold Hub.echo
      split
      · rename_i setting value hecho
        refine ⟨rfl, .inr ⟨_, rfl, ?_⟩⟩
        rintro k v heq
        cases heq
        exact ⟨t.cmd, hecho⟩
      · exact ⟨rfl, .inl rfl⟩

end Hub

theorem sends_echoes {s s' : Hub} {a : HubStep} (hs : s.step a = some s') :
    ∀ r ∈ Subsystem.echoes id s s', Sends id r := by
  intro r hr
  rcases (Hub.log_of_step hs).2 with hlog | ⟨x, hlog, hx⟩
  · simp [Subsystem.echoes, hlog] at hr
  · simp only [Subsystem.echoes, hlog, List.drop_left] at hr
    obtain ⟨y, hy, hsome⟩ := List.mem_filterMap.mp hr
    obtain rfl := List.mem_singleton.mp hy
    cases y with
    | submitted cmd => cases hsome
    | echoed k value =>
      obtain rfl := Option.some.inj hsome
      obtain ⟨cmd, hcmd⟩ := hx k value rfl
      exact .setting k (mem_options_of_echo hcmd)

namespace Watcher

/-- The tasks publish states. -/
def Translates (s : Watcher) : Prop := ∀ t ∈ s.tasks, ∃ state failed, t.value = translate state failed

variable {s s' : Watcher}

theorem Translates.step {a : WatcherStep} (h : s.Translates) (hs : s.step a = some s') : s'.Translates := by
  cases moves_of_step hs with
  | publish =>
    intro t ht
    rcases List.mem_append.mp ht with ht | ht
    · exact h t ht
    · rw [List.mem_singleton.mp ht]
      exact ⟨_, _, rfl⟩
  | runTask hi =>
    intro t ht
    rcases List.mem_or_eq_of_mem_set ht with ht | rfl
    · exact h t ht
    · exact h ⟨_, false⟩ (List.mem_of_getElem? hi)
  | _ => exact h

theorem sends_states {a : WatcherStep} (h : s.Translates) (hs : s.step a = some s') :
    ∀ r ∈ Subsystem.states id s s', Sends id r := by
  intro r hr
  cases moves_of_step hs with
  | @runTask i value hi =>
    obtain ⟨state, failed, rfl⟩ := h _ (List.mem_of_getElem? hi)
    simp only [Subsystem.states, List.drop_left, List.map_cons, List.map_nil, List.mem_singleton] at hr
    exact hr ▸ .state state failed
  | _ => simp [Subsystem.states, Watcher.publish] at hr

end Watcher

namespace Subsystem

/-- All that is on its way to the broker, or retained there, is something the tasks send. -/
structure Inv (id : DeviceIdentity) (s : Subsystem) : Prop where
  root : s.hub.topicPrefix = id.topicRoot ++ "/"
  translates : s.watcher.Translates
  left : ∀ left, s.loop = .announcing left → left ≠ [] ∧ ∀ r ∈ left, Sends id r
  status : ∀ r ∈ s.status, Sends id r
  requests : ∀ r ∈ s.requests, Sends id r
  taken : ∀ r ∈ s.taken, Sends id r
  retained : ∀ x ∈ s.retained, Sends id (.publish x.1 true x.2)

variable {s s' : Subsystem}

theorem Inv.new : (Subsystem.new id latch).Inv id := by
  constructor <;> simp [Subsystem.new, Watcher.Translates, Watcher.new, DeviceIdentity.hub, Hub.new]

theorem send_eq {rs : List Request} (h : s.send rs = some s') :
    s.requests.length + rs.length ≤ capacity ∧ s' = { s with requests := s.requests ++ rs } := by
  rw [send, Option.ite_none_right_eq_some] at h
  exact ⟨h.1, (Option.some.inj h.2).symm⟩

/-- A step of the hub's tasks. -/
theorem step_hub {a : HubStep} (hs : s.step id pkgVersion (.hub a) = some s') :
    ∃ hub, s.hub.step a = some hub ∧ (∀ topic payload, a ≠ .message topic payload) ∧
      { s with hub }.send (echoes id s.hub hub) = some s' := by
  cases a with
  | message => cases hs
  | _ =>
    simp only [Subsystem.step] at hs
    split at hs
    · exact ⟨_, ‹_›, by simp, hs⟩
    · cases hs

theorem Inv.send (h : s.Inv id) {rs : List Request} (hrs : ∀ r ∈ rs, Sends id r)
    (hs : s.send rs = some s') : s'.Inv id := by
  obtain ⟨-, rfl⟩ := send_eq hs
  exact { h with requests := fun r hr => (List.mem_append.mp hr).elim (h.requests r) (hrs r) }

theorem Inv.broker (h : s.Inv id) {r : Request} (hr : Sends id r) : (s.broker r).Inv id := by
  unfold Subsystem.broker
  split
  · refine { h with retained := ?_ }
    rintro x (_ | ⟨_, hx⟩)
    · exact hr
    · exact h.retained x hx
  · exact h
  · exact h

theorem Inv.step {a : SubsystemStep} (h : s.Inv id) (hs : s.step id pkgVersion a = some s') :
    s'.Inv id := by
  cases a with
  | connAck =>
    simp only [Subsystem.step, Option.ite_none_right_eq_some] at hs
    obtain rfl := Option.some.inj hs.2
    refine { h with left := ?_ }
    rintro left hleft
    cases hleft
    exact ⟨by simp [DeviceIdentity.announce], sends_announce⟩
  | announce =>
    simp only [Subsystem.step] at hs
    split at hs
    · rename_i r left hloop
      obtain ⟨-, hleft⟩ := h.left _ hloop
      have hrest : Inv id { s with loop := if left = [] then .polling else .announcing left } := by
        refine { h with left := ?_ }
        intro left' hleft'
        simp only at hleft'
        split at hleft'
        · cases hleft'
        · rename_i hne
          cases hleft'
          exact ⟨hne, fun r' hr' => hleft r' (List.mem_cons_of_mem _ hr')⟩
      refine hrest.send ?_ hs
      intro r' hr'
      rw [List.mem_singleton.mp hr']
      exact hleft r List.mem_cons_self
    · cases hs
  | error | resume =>
    simp only [Subsystem.step, Option.ite_none_right_eq_some] at hs
    obtain rfl := Option.some.inj hs.2
    exact { h with left := by simp }
  | message topic payload =>
    simp only [Subsystem.step, Option.ite_none_right_eq_some] at hs
    obtain ⟨hub, hhub, rfl⟩ := Option.map_eq_some_iff.mp hs.2
    exact { h with root := (Hub.log_of_step hhub).1.trans h.root }
  | hub a =>
    obtain ⟨hub, hhub, -, hsend⟩ := step_hub hs
    exact Inv.send (s := { s with hub }) { h with root := (Hub.log_of_step hhub).1.trans h.root }
      (sends_echoes hhub) hsend
  | watcher a =>
    simp only [Subsystem.step] at hs
    split at hs
    · rename_i watcher hwatcher
      exact Inv.send (s := { s with watcher }) { h with translates := h.translates.step hwatcher }
        (Watcher.sends_states h.translates hwatcher) hs
    · cases hs
  | readStatus caps =>
    simp only [Subsystem.step, Option.ite_none_right_eq_some] at hs
    obtain rfl := Option.some.inj hs.2
    exact { h with status := sends_statusRequests caps }
  | sendStatus =>
    simp only [Subsystem.step] at hs
    split at hs
    · rename_i r rest hstatus
      have hall := h.status
      rw [hstatus] at hall
      refine Inv.send (s := { s with status := rest })
        { h with status := fun r' hr' => hall r' (List.mem_cons_of_mem _ hr') } ?_ hs
      intro r' hr'
      rw [List.mem_singleton.mp hr']
      exact hall r List.mem_cons_self
    · cases hs
  | snapshot jpeg =>
    refine h.send ?_ hs
    intro r hr
    rw [List.mem_singleton.mp hr]
    exact .snapshot jpeg
  | take =>
    simp only [Subsystem.step] at hs
    split at hs
    · rename_i r rest _ hrequests
      obtain rfl := Option.some.inj hs
      have hall := h.requests
      rw [hrequests] at hall
      refine { h with
        requests := fun r' hr' => hall r' (List.mem_cons_of_mem _ hr')
        taken := fun r' hr' => ?_ }
      rcases List.mem_append.mp hr' with hr' | hr'
      · exact h.taken r' hr'
      · rw [List.mem_singleton.mp hr']
        exact hall r List.mem_cons_self
    · cases hs
  | reach i =>
    simp only [Subsystem.step, Option.ite_none_right_eq_some] at hs
    obtain ⟨r, hr, rfl⟩ := Option.map_eq_some_iff.mp hs.2
    exact h.broker (h.taken r (List.mem_of_getElem? hr))
  | settle i =>
    simp only [Subsystem.step, Option.ite_none_right_eq_some] at hs
    obtain rfl := Option.some.inj hs.2
    exact { h with taken := fun r hr => h.taken r (List.mem_of_mem_eraseIdx hr) }
  | will =>
    obtain rfl := Option.some.inj hs
    exact h.broker (.availability (.inr rfl))

theorem inv_of_reachable (h : Reachable (subsystem id pkgVersion latch) s) : s.Inv id :=
  h.induct (P := Inv id) .new fun _ _ _ _ _ hs hi => hi.step hs

end Subsystem

/-! ## What is retained -/

/-- The message retained on a topic. -/
def Subsystem.message? (s : Subsystem) (topic : String) : Option Payload := s.retained.lookup topic

/-- A config is retained whose field `key` names this topic. -/
def Subsystem.Names (s : Subsystem) (payload : Fields) (key topic : String) : Prop :=
  (∃ configTopic device, s.message? configTopic = some (.discovery payload device)) ∧
    payload.lookup key = some (.string topic)

/-- On the topics that the retained configs name, Home Assistant finds what it expects there: on a state
topic one of the options, if the config has options, and else a state. -/
structure Subsystem.Coherent (s : Subsystem) : Prop where
  availability : ∀ payload topic message, s.Names payload "availability_topic" topic →
    s.message? topic = some message → message = .text "online" ∨ message = .text "offline"
  options : ∀ payload topic message items, s.Names payload "state_topic" topic →
    payload.lookup "options" = some (.array items) → s.message? topic = some message →
      ∃ value ∈ items, message = .text value
  state : ∀ payload topic message, s.Names payload "state_topic" topic →
    payload.lookup "options" = none → s.message? topic = some message →
      ∃ state failed, message = .text (translate state failed)
  image : ∀ payload topic message, s.Names payload "topic" topic → s.message? topic = some message →
    ∃ jpeg, message = .jpeg jpeg

namespace Sends

/-- A topic of the camera is none that configs go to. -/
theorem discoveryTopic_ne {swVersion component objectId suffix : String} {c : Char}
    (hsuffix : suffix.toList.getLast? = some c) (hc : c ≠ 'g') :
    ({ id with swVersion } : DeviceIdentity).discoveryTopic component objectId ≠ id.topic suffix := by
  intro h
  have hlast := congrArg (List.getLast? ∘ String.toList) h
  rw [Function.comp, Function.comp, DeviceIdentity.toList_discoveryTopic, DeviceIdentity.toList_topic] at hlast
  simp [List.getLast?_append, List.getLast?_cons, hsuffix] at hlast
  exact hc hlast.symm

/-- What is sent to a topic of the camera. -/
theorem of_topic {suffix : String} {c : Char} {message : Payload}
    (h : Sends id (.publish (id.topic suffix) true message))
    (hsuffix : suffix.toList.getLast? = some c) (hc : c ≠ 'g') :
    (suffix = "availability" ∧ (message = .text "online" ∨ message = .text "offline")) ∨
    (suffix = "state" ∧ ∃ state failed, message = .text (translate state failed)) ∨
    (suffix = "snapshot" ∧ ∃ jpeg, message = .jpeg jpeg) ∨
    ∃ k : Setting, suffix = k.name ++ "/state" ∧ ∃ value ∈ k.options, message = .text value := by
  generalize hr : Request.publish (id.topic suffix) true message = r at h
  cases h with
  | config hm =>
    obtain ⟨i, hi⟩ := List.mem_iff_getElem?.mp hm
    obtain ⟨e, -, htopic, -⟩ := exists_entity hi
    have heq := (Request.publish.inj hr).1
    rw [htopic] at heq
    exact absurd heq.symm (discoveryTopic_ne hsuffix hc)
  | availability hvalue =>
    obtain ⟨htopic, -, rfl⟩ := Request.publish.inj hr
    exact .inl ⟨DeviceIdentity.topic_inj htopic, hvalue.imp (by rintro rfl; rfl) (by rintro rfl; rfl)⟩
  | state state failed =>
    obtain ⟨htopic, -, rfl⟩ := Request.publish.inj hr
    exact .inr (.inl ⟨DeviceIdentity.topic_inj htopic, state, failed, rfl⟩)
  | setting k hvalue =>
    obtain ⟨htopic, -, rfl⟩ := Request.publish.inj hr
    exact .inr (.inr (.inr ⟨k, DeviceIdentity.topic_inj htopic, _, hvalue, rfl⟩))
  | snapshot jpeg =>
    obtain ⟨htopic, -, rfl⟩ := Request.publish.inj hr
    exact .inr (.inr (.inl ⟨DeviceIdentity.topic_inj htopic, jpeg, rfl⟩))
  | subscribe => cases hr

variable {message : Payload}

theorem at_availability (h : Sends id (.publish (id.topic "availability") true message)) :
    message = .text "online" ∨ message = .text "offline" := by
  rcases h.of_topic (c := 'y') (by decide) (by decide) with ⟨-, h⟩ | ⟨hs, -⟩ | ⟨hs, -⟩ | ⟨k, hs, -⟩
  · exact h
  · exact absurd hs (by decide)
  · exact absurd hs (by decide)
  · cases k <;> exact absurd hs (by decide)

theorem at_state (h : Sends id (.publish (id.topic "state") true message)) :
    ∃ state failed, message = .text (translate state failed) := by
  rcases h.of_topic (c := 'e') (by decide) (by decide) with ⟨hs, -⟩ | ⟨-, h⟩ | ⟨hs, -⟩ | ⟨k, hs, -⟩
  · exact absurd hs (by decide)
  · exact h
  · exact absurd hs (by decide)
  · cases k <;> exact absurd hs (by decide)

theorem at_snapshot (h : Sends id (.publish (id.topic "snapshot") true message)) :
    ∃ jpeg, message = .jpeg jpeg := by
  rcases h.of_topic (c := 't') (by decide) (by decide) with ⟨hs, -⟩ | ⟨hs, -⟩ | ⟨-, h⟩ | ⟨k, hs, -⟩
  · exact absurd hs (by decide)
  · exact absurd hs (by decide)
  · exact h
  · cases k <;> exact absurd hs (by decide)

theorem at_setting {k : Setting} (h : Sends id (.publish (id.settingTopic k) true message)) :
    ∃ value ∈ k.options, message = .text value := by
  have hlast : (k.name ++ "/state").toList.getLast? = some 'e' := by cases k <;> decide
  rcases h.of_topic hlast (by decide) with ⟨hs, -⟩ | ⟨hs, -⟩ | ⟨hs, -⟩ | ⟨k', hs, h⟩
  · cases k <;> exact absurd hs (by decide)
  · cases k <;> exact absurd hs (by decide)
  · cases k <;> exact absurd hs (by decide)
  · have hk : k = k' := by
      revert hs
      cases k <;> cases k' <;> decide
    exact hk ▸ h

end Sends

/-- What a config may say about how its entity is read and commanded. -/
inductive Kind (id : DeviceIdentity) (payload : Fields) : Prop where
  | image (htopic : payload.lookup "topic" = some (.string (id.topic "snapshot")))
      (hstate : payload.lookup "state_topic" = none) (hcommand : payload.lookup "command_topic" = none)
  | sensor (htopic : payload.lookup "topic" = none)
      (hstate : payload.lookup "state_topic" = some (.string (id.topic "state")))
      (hoptions : payload.lookup "options" = none) (hcommand : payload.lookup "command_topic" = none)
  | select (k : Setting) (htopic : payload.lookup "topic" = none)
      (hstate : payload.lookup "state_topic" = some (.string (id.settingTopic k)))
      (hoptions : payload.lookup "options" = some (.array k.options))
      (hcommand : payload.lookup "command_topic" = some (.string (id.topic (k.name ++ "/set"))))
  | button (htopic : payload.lookup "topic" = none) (hstate : payload.lookup "state_topic" = none)
      (hcommand : payload.lookup "command_topic" = some (.string (id.topic "reboot/press")))

theorem kind_of_mem {swVersion : String} {m : DiscoveryMessage} (hm : m ∈ all { id with swVersion }) :
    Kind id m.payload := by
  simp only [all, List.mem_cons, List.not_mem_nil, or_false] at hm
  rcases hm with rfl | rfl | rfl | rfl | rfl
  · exact .image rfl rfl rfl
  · exact .sensor rfl rfl rfl rfl
  · exact .select .mode rfl rfl rfl rfl
  · exact .select .quality rfl rfl rfl rfl
  · exact .button rfl rfl rfl

theorem availability_of_mem {swVersion : String} {m : DiscoveryMessage}
    (hm : m ∈ all { id with swVersion }) :
    m.payload.lookup "availability_topic" = some (.string (id.topic "availability")) := by
  simp only [all, List.mem_cons, List.not_mem_nil, or_false] at hm
  rcases hm with rfl | rfl | rfl | rfl | rfl
  all_goals rfl

namespace Subsystem

variable {s : Subsystem}

theorem Inv.message? (h : s.Inv id) {topic : String} {message : Payload}
    (hm : s.message? topic = some message) : Sends id (.publish topic true message) := by
  obtain ⟨l₁, l₂, hsplit, -⟩ := List.lookup_eq_some_iff.mp hm
  exact h.retained (topic, message) (by simp [hsplit])

/-- A retained config is one of those that are sent. -/
theorem Inv.config (h : s.Inv id) {topic : String} {payload device : Fields}
    (hm : s.message? topic = some (.discovery payload device)) :
    ∃ swVersion, ∃ m ∈ all { id with swVersion }, m.payload = payload := by
  have hsends := h.message? hm
  generalize hr : Request.publish topic true (.discovery payload device) = r at hsends
  cases hsends with
  | config hm =>
    have hpayload := (Request.publish.inj hr).2.2
    exact ⟨_, _, hm, (Payload.discovery.inj hpayload).1.symm⟩
  | subscribe => cases hr
  | _ => cases (Request.publish.inj hr).2.2

theorem Inv.kind (h : s.Inv id) {topic : String} {payload device : Fields}
    (hm : s.message? topic = some (.discovery payload device)) : Kind id payload := by
  obtain ⟨swVersion, m, hmem, rfl⟩ := h.config hm
  exact kind_of_mem hmem

end Subsystem

/-- In every run, whatever Home Assistant has been told about an entity fits what it finds on the topics
of that entity. -/
theorem retained_coherent {s : Subsystem} (h : Reachable (subsystem id pkgVersion latch) s) :
    s.Coherent := by
  have hinv := Subsystem.inv_of_reachable h
  constructor
  · rintro payload topic message ⟨⟨configTopic, device, hconfig⟩, hnames⟩ hmessage
    obtain ⟨swVersion, m, hm, rfl⟩ := hinv.config hconfig
    rw [availability_of_mem hm] at hnames
    obtain rfl := Value.string.inj (Option.some.inj hnames)
    exact (hinv.message? hmessage).at_availability
  · rintro payload topic message items ⟨⟨configTopic, device, hconfig⟩, hnames⟩ hitems hmessage
    cases hinv.kind hconfig with
    | select k _ hstate hoptions _ =>
      rw [hstate] at hnames
      obtain rfl := Value.string.inj (Option.some.inj hnames)
      rw [hoptions] at hitems
      obtain rfl := Value.array.inj (Option.some.inj hitems)
      exact (hinv.message? hmessage).at_setting
    | sensor _ _ hoptions _ => cases hoptions.symm.trans hitems
    | image _ hstate _ => cases hstate.symm.trans hnames
    | button _ hstate _ => cases hstate.symm.trans hnames
  · rintro payload topic message ⟨⟨configTopic, device, hconfig⟩, hnames⟩ hnone hmessage
    cases hinv.kind hconfig with
    | sensor _ hstate _ _ =>
      rw [hstate] at hnames
      obtain rfl := Value.string.inj (Option.some.inj hnames)
      exact (hinv.message? hmessage).at_state
    | select k _ _ hoptions _ => cases hoptions.symm.trans hnone
    | image _ hstate _ => cases hstate.symm.trans hnames
    | button _ hstate _ => cases hstate.symm.trans hnames
  · rintro payload topic message ⟨⟨configTopic, device, hconfig⟩, hnames⟩ hmessage
    cases hinv.kind hconfig with
    | image htopic _ _ =>
      rw [htopic] at hnames
      obtain rfl := Value.string.inj (Option.some.inj hnames)
      exact (hinv.message? hmessage).at_snapshot
    | sensor htopic _ _ _ => cases htopic.symm.trans hnames
    | select _ htopic _ _ _ => cases htopic.symm.trans hnames
    | button htopic _ _ => cases htopic.symm.trans hnames

/-- A proxy as it runs by default. -/
def livingRoom : DeviceIdentity :=
  .ofCamera ⟨7, some "Living Room"⟩ "0.2.5" "buddy3d-proxy" "homeassistant"

/-- The broker is connected and gets the whole announcement. -/
def announced : List SubsystemStep :=
  .connAck :: List.replicate 9 .announce ++ List.replicate 9 .take ++ (List.range 9).map .reach

/-- A user sets the mode while a session is up. -/
theorem retained_coherent_day : ∃ s, Reachable (subsystem livingRoom "0.2.5" true) s ∧
    s.message? "buddy3d-proxy/7/mode/state" = some (.text "Day") ∧ s.Coherent := by
  obtain ⟨s, hr, hp⟩ := exists_reachable_of_run (subsystem livingRoom "0.2.5" true)
    (announced ++ [.hub .register, .message "buddy3d-proxy/7/mode/set" [68, 97, 121], .hub (.task 0),
      .hub (.task 0), .hub (.task 0), .take, .reach 9])
    (fun s => decide (s.message? "buddy3d-proxy/7/mode/state" = some (.text "Day"))) (by decide +kernel)
  exact ⟨s, hr, of_decide_eq_true hp, retained_coherent hr⟩

/-! ## What is offered -/

/-- What Home Assistant sends on the command topic of an entity. -/
def offered (payload : Fields) : List String :=
  match payload.lookup "options", payload.lookup "payload_press" with
  | some (.array items), _ => items
  | _, some (.string press) => [press]
  | _, _ => []

/-- The camera runs with what the command sets. -/
def Command.RunsWith : Command → UInt32 × UInt32 → Prop
  | setMode m, config => config.1 = m
  | setQuality q, config => config.2 = q
  | reboot, _ => False

theorem mem_statusRequests {caps : Capabilities} {config : UInt32 × UInt32} {k : Setting} {value : String}
    (hcaps : caps.streamConfig = some config)
    (hvalue : (match k with
      | .mode => modeName config.1
      | .quality => qualityName config.2) = some value) :
    id.publishSetting k value ∈ statusRequests id pkgVersion caps := by
  rw [statusRequests, hcaps, List.mem_append]
  right
  cases k with
  | mode => simp only at hvalue; simp [hvalue]
  | quality => simp only at hvalue; simp [hvalue]

/-- An option is a command, which is echoed as the option, and so is the camera's report of it. -/
theorem command_of_option (id : DeviceIdentity) (pkgVersion : String) {k : Setting} {value : String}
    (h : value ∈ k.options) :
    ∃ cmd : Command, parse (k.name ++ "/set") (Rust.utf8 value.toList) = some cmd ∧
      cmd.echo = some (k, value) ∧
      ∀ config caps, cmd.RunsWith config → caps.streamConfig = some config →
        id.publishSetting k value ∈ statusRequests id pkgVersion caps := by
  cases k with
  | mode =>
    have hparse : ∃ m, parse "mode/set" (Rust.utf8 value.toList) = some (.setMode m) ∧
        (Command.setMode m).echo = some (.mode, value) ∧ modeName m = some value := by
      simp only [Setting.options, List.mem_cons, List.not_mem_nil, or_false] at h
      rcases h with rfl | rfl | rfl
      · exact ⟨1, by decide +kernel, by decide, by decide⟩
      · exact ⟨2, by decide +kernel, by decide, by decide⟩
      · exact ⟨3, by decide +kernel, by decide, by decide⟩
    obtain ⟨m, hm, hecho, hname⟩ := hparse
    refine ⟨_, hm, hecho, ?_⟩
    rintro config caps rfl hcaps
    exact mem_statusRequests hcaps hname
  | quality =>
    have hparse : ∃ q, parse "quality/set" (Rust.utf8 value.toList) = some (.setQuality q) ∧
        (Command.setQuality q).echo = some (.quality, value) ∧ qualityName q = some value := by
      simp only [Setting.options, List.mem_cons, List.not_mem_nil, or_false] at h
      rcases h with rfl | rfl | rfl
      · exact ⟨1, by decide +kernel, by decide, by decide⟩
      · exact ⟨2, by decide +kernel, by decide, by decide⟩
      · exact ⟨3, by decide +kernel, by decide, by decide⟩
    obtain ⟨q, hq, hecho, hname⟩ := hparse
    refine ⟨_, hq, hecho, ?_⟩
    rintro config caps rfl hcaps
    exact mem_statusRequests hcaps hname

/-- A message on a command topic of the camera starts the task of its command. -/
theorem Hub.step_message {s : Hub} {suffix : String} {payload : List UInt8} {cmd : Command}
    (h : s.topicPrefix = id.topicRoot ++ "/") (hcmd : parse suffix payload = some cmd) :
    s.step (.message (id.topic suffix) payload) =
      some { s with tasks := s.tasks ++ [⟨cmd, .dispatching⟩] } := by
  simp only [Hub.step, suffix_topic h, hcmd]

/-- In every run, whatever a retained config offers to be sent on its command topic is served: the topic is
one the hub subscribes to, a message with the offered value starts the task of a command, and where the
config has a state topic, what is published there once that command has been dispatched, and whenever
the camera reports that it runs with it, is the offered value. -/
theorem offers_served {s : Subsystem} (h : Reachable (subsystem id pkgVersion latch) s)
    {configTopic commandTopic value : String} {payload device : Fields}
    (hconfig : s.message? configTopic = some (.discovery payload device))
    (hcommand : payload.lookup "command_topic" = some (.string commandTopic))
    (hvalue : value ∈ offered payload) :
    .subscribe commandTopic ∈ id.announce ∧
    ∃ cmd : Command,
      s.hub.step (.message commandTopic (Rust.utf8 value.toList)) =
        some { s.hub with tasks := s.hub.tasks ++ [⟨cmd, .dispatching⟩] } ∧
      ∀ stateTopic, payload.lookup "state_topic" = some (.string stateTopic) →
        (cmd.echo.map fun x => id.publishSetting x.1 x.2) =
          some (.publish stateTopic true (.text value)) ∧
        ∀ config caps, cmd.RunsWith config → caps.streamConfig = some config →
          .publish stateTopic true (.text value) ∈ statusRequests id pkgVersion caps := by
  have hinv := Subsystem.inv_of_reachable h
  cases hinv.kind hconfig with
  | image _ _ hnone => cases hnone.symm.trans hcommand
  | sensor _ _ _ hnone => cases hnone.symm.trans hcommand
  | select k _ hstate hoptions hset =>
    rw [hset] at hcommand
    obtain rfl := Value.string.inj (Option.some.inj hcommand)
    have hmem : value ∈ k.options := by simpa only [offered, hoptions] using hvalue
    obtain ⟨cmd, hparse, hecho, hreport⟩ := command_of_option id pkgVersion hmem
    refine ⟨?_, cmd, Hub.step_message hinv.root hparse, ?_⟩
    · cases k <;> simp [DeviceIdentity.announce, Setting.name]
    · intro stateTopic htopic
      obtain rfl := Value.string.inj (Option.some.inj (hstate.symm.trans htopic))
      exact ⟨by rw [hecho]; rfl, hreport⟩
  | button _ hstate hset =>
    rw [hset] at hcommand
    obtain rfl := Value.string.inj (Option.some.inj hcommand)
    have hparse : parse "reboot/press" (Rust.utf8 value.toList) = some .reboot := by
      simp [parse, Rust.fromUtf8_utf8]
    refine ⟨by simp [DeviceIdentity.announce], .reboot, Hub.step_message hinv.root hparse, ?_⟩
    intro stateTopic htopic
    cases hstate.symm.trans htopic

/-- The entity of the mode is used. -/
theorem offers_served_night : ∃ s, Reachable (subsystem livingRoom "0.2.5" true) s ∧
    .subscribe "buddy3d-proxy/7/mode/set" ∈ livingRoom.announce ∧
    ∃ cmd : Command,
      s.hub.step (.message "buddy3d-proxy/7/mode/set" (Rust.utf8 "Night".toList)) =
        some { s.hub with tasks := s.hub.tasks ++ [⟨cmd, .dispatching⟩] } ∧
      (cmd.echo.map fun x => livingRoom.publishSetting x.1 x.2) =
        some (.publish "buddy3d-proxy/7/mode/state" true (.text "Night")) := by
  obtain ⟨s, hr, hp⟩ := exists_reachable_of_run (subsystem livingRoom "0.2.5" true) announced
    (fun s => decide (s.message? "homeassistant/select/buddy3d_proxy_7/mode/config" =
      some (.discovery (modeSelect livingRoom).payload livingRoom.deviceBlock))) (by decide +kernel)
  obtain ⟨hsubscribed, cmd, hstep, hstate⟩ :=
    @offers_served livingRoom "0.2.5" true s hr _ "buddy3d-proxy/7/mode/set" "Night" _ _
      (of_decide_eq_true hp) (by decide) (by decide)
  exact ⟨s, hr, hsubscribed, cmd, hstep, (hstate _ (by decide)).1⟩

/-! ## An announcement into a full channel -/

theorem Hub.length_tasks_of_step {s s' : Hub} {a : HubStep} (ha : ∀ topic payload, a ≠ .message topic payload)
    (hs : s.step a = some s') : s'.tasks.length = s.tasks.length := by
  cases hsucceeds : a.succeeds with
  | false =>
    cases a with
    | fails i =>
      simp only [Hub.step] at hs
      split at hs
      · rw [Option.ite_none_right_eq_some] at hs
        obtain rfl := Option.some.inj hs.2
        simp [Hub.moveTask]
      · cases hs
    | _ => cases hsucceeds
  | true =>
    cases Hub.moves_of_step hsucceeds hs with
    | arrive => exact absurd rfl (ha _ _)
    | elsewhere => rfl
    | moves => simp [Hub.moveTask]
    | submits => simp [Hub.submit, Hub.moveTask]
    | echoes => simp [Hub.echo_tasks]

namespace Subsystem

/-- What is left of the announcement has no room. -/
def Stuck (s : Subsystem) : Prop :=
  ∃ left, s.loop = .announcing left ∧ capacity < s.requests.length + left.length

/-- From `s` to `t` nothing was heard from the broker, and nothing but the last will was published. -/
structure CutOff (id : DeviceIdentity) (s t : Subsystem) : Prop where
  tasks : t.hub.tasks.length = s.hub.tasks.length
  taken : t.taken = s.taken
  retained : ∃ n, t.retained =
    List.replicate n (id.topic "availability", .text "offline") ++ s.retained

variable {s s' : Subsystem}

theorem CutOff.refl (s : Subsystem) : CutOff id s s := ⟨rfl, rfl, 0, rfl⟩

theorem CutOff.trans {t : Subsystem} (h : CutOff id s s') (h' : CutOff id s' t) : CutOff id s t := by
  obtain ⟨m, hm⟩ := h.retained
  obtain ⟨n, hn⟩ := h'.retained
  refine ⟨h'.tasks.trans h.tasks, h'.taken.trans h.taken, n + m, ?_⟩
  rw [hn, hm, List.replicate_add, List.append_assoc]

theorem Stuck.send {rs : List Request} (h : s.Stuck) (hs : s.send rs = some s') :
    s'.Stuck ∧ CutOff id s s' := by
  obtain ⟨left, hloop, hfull⟩ := h
  obtain ⟨-, rfl⟩ := send_eq hs
  refine ⟨⟨left, hloop, ?_⟩, rfl, rfl, 0, rfl⟩
  simp only [List.length_append]
  omega

theorem Stuck.step {a : SubsystemStep} (h : s.Stuck) (hs : s.step id pkgVersion a = some s') :
    s'.Stuck ∧ CutOff id s s' := by
  obtain ⟨left, hloop, hfull⟩ := h
  cases a with
  | connAck | error | resume | message | settle => simp [Subsystem.step, hloop] at hs
  | take => simp [Subsystem.step, hloop] at hs
  | reach => simp [Subsystem.step, hloop] at hs
  | announce =>
    simp only [Subsystem.step, hloop] at hs
    split at hs
    · rename_i r rest heq
      cases heq
      obtain ⟨hroom, rfl⟩ := send_eq hs
      simp only [List.length_cons, List.length_nil] at hroom hfull
      have hne : rest ≠ [] := by
        rintro rfl
        simp only [List.length_nil] at hfull
        omega
      refine ⟨⟨rest, by simp [hne], ?_⟩, rfl, rfl, 0, rfl⟩
      simp only [List.length_append, List.length_singleton]
      omega
    · cases hs
  | hub a =>
    obtain ⟨hub, hhub, ha, hsend⟩ := step_hub hs
    have hstuck : Stuck { s with hub } := ⟨left, hloop, hfull⟩
    obtain ⟨hs', hcut⟩ := hstuck.send hsend
    exact ⟨hs', hcut.tasks.trans (Hub.length_tasks_of_step ha hhub), hcut.taken, hcut.retained⟩
  | watcher a =>
    simp only [Subsystem.step] at hs
    split at hs
    · rename_i watcher _
      have hstuck : Stuck { s with watcher } := ⟨left, hloop, hfull⟩
      obtain ⟨hs', hcut⟩ := hstuck.send hs
      exact ⟨hs', hcut.tasks, hcut.taken, hcut.retained⟩
    · cases hs
  | readStatus caps =>
    simp only [Subsystem.step, Option.ite_none_right_eq_some] at hs
    obtain rfl := Option.some.inj hs.2
    exact ⟨⟨left, hloop, hfull⟩, rfl, rfl, 0, rfl⟩
  | sendStatus =>
    simp only [Subsystem.step] at hs
    split at hs
    · rename_i r rest _
      have hstuck : Stuck { s with status := rest } := ⟨left, hloop, hfull⟩
      obtain ⟨hs', hcut⟩ := hstuck.send hs
      exact ⟨hs', hcut.tasks, hcut.taken, hcut.retained⟩
    · cases hs
  | snapshot jpeg =>
    have hstuck : Stuck s := ⟨left, hloop, hfull⟩
    exact hstuck.send hs
  | will =>
    obtain rfl := Option.some.inj hs
    exact ⟨⟨left, hloop, hfull⟩, rfl, rfl, 1, rfl⟩

theorem Stuck.path {as : List SubsystemStep} (h : s.Stuck)
    (hp : Path (subsystem id pkgVersion latch) s as s') : s'.Stuck ∧ CutOff id s s' := by
  refine Path.inductOn (P := fun _ t => t.Stuck ∧ CutOff id s t) hp ⟨h, .refl s⟩ ?_
  rintro bs t b t' - hs ⟨ht, hcut⟩
  obtain ⟨ht', hcut'⟩ := ht.step hs
  exact ⟨ht', hcut.trans hcut'⟩

/-- An announcement with room is sent to its end, in order. -/
theorem exists_path_of_room {left : List Request} (hne : left ≠ [])
    (hroom : s.requests.length + left.length ≤ capacity) (hloop : s.loop = .announcing left) :
    ∃ as, Path (subsystem id pkgVersion latch) s as
      { s with loop := .polling, requests := s.requests ++ left } := by
  induction left generalizing s with
  | nil => exact absurd rfl hne
  | cons r rest ih =>
    rw [List.length_cons] at hroom
    have hstep : s.step id pkgVersion .announce = some
        { s with
          loop := if rest = [] then .polling else .announcing rest
          requests := s.requests ++ [r] } := by
      simp only [Subsystem.step, hloop, Subsystem.send, List.length_singleton]
      rw [if_pos (by omega)]
    have hfirst : Path (subsystem id pkgVersion latch) s [.announce]
        { s with
          loop := if rest = [] then .polling else .announcing rest
          requests := s.requests ++ [r] } := Path.single hstep
    by_cases hrest : rest = []
    · subst hrest
      exact ⟨_, hfirst⟩
    · rw [if_neg hrest] at hfirst
      obtain ⟨as, hp⟩ := ih (s := { s with loop := .announcing rest, requests := s.requests ++ [r] })
        hrest (by simp only [List.length_append, List.length_singleton]; omega) rfl
      rw [List.append_assoc] at hp
      exact ⟨_, hfirst.append hp⟩

end Subsystem

/-- Whether an announcement can come to its end is settled by what the channel holds. With room for all of
it there is a run in which the hub sends it at once, in order, and polls again; in others the requests of
other tasks may take the room first. Without, the hub never polls again, whatever the other tasks do: no
request is taken out of the channel, no message is heard, and the broker gets nothing but the last
will. -/
theorem announcement_settled {s : Subsystem} (h : Reachable (subsystem id pkgVersion latch) s)
    {left : List Request} (hloop : s.loop = .announcing left) :
    (s.requests.length + left.length ≤ Subsystem.capacity ∧
      ∃ as, Path (subsystem id pkgVersion latch) s as
        { s with loop := .polling, requests := s.requests ++ left }) ∨
    (Subsystem.capacity < s.requests.length + left.length ∧
      ∀ as t, Path (subsystem id pkgVersion latch) s as t → t.loop ≠ .polling ∧ s.CutOff id t) := by
  obtain ⟨hne, -⟩ := (Subsystem.inv_of_reachable h).left left hloop
  by_cases hroom : s.requests.length + left.length ≤ Subsystem.capacity
  · exact .inl ⟨hroom, Subsystem.exists_path_of_room hne hroom hloop⟩
  · refine .inr ⟨by omega, ?_⟩
    intro as t hp
    have hstuck : s.Stuck := ⟨left, hloop, by omega⟩
    obtain ⟨⟨left', hloop', -⟩, hcut⟩ := hstuck.path hp
    exact ⟨by simp [hloop'], hcut⟩

/-- While the broker is away 56 requests pile up. -/
theorem announcement_settled_full : ∃ s left, Reachable (subsystem livingRoom "0.2.5" true) s ∧
    s.loop = .announcing left ∧
    ∀ as t, Path (subsystem livingRoom "0.2.5" true) s as t → t.loop ≠ .polling ∧ s.CutOff livingRoom t := by
  obtain ⟨s, hr, hp⟩ := exists_reachable_of_run (subsystem livingRoom "0.2.5" true)
    (.error :: List.replicate 56 (.snapshot [255, 216]) ++ [.resume, .connAck])
    (fun s => decide (s.loop = .announcing livingRoom.announce ∧ s.requests.length = 56))
    (by decide +kernel)
  obtain ⟨hloop, hlength⟩ := of_decide_eq_true hp
  refine ⟨s, livingRoom.announce, hr, hloop, ?_⟩
  rcases announcement_settled hr hloop with ⟨hroom, -⟩ | ⟨-, hcut⟩
  · rw [hlength] at hroom
    exact absurd hroom (by decide)
  · exact hcut

end Buddy3dProxy.Mqtt
