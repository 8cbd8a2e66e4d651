import Buddy3dProxy.Prusa.Commands
import Buddy3dProxy.Rust.Text
import Buddy3dProxy.Signaling.Transport

/-!
# MQTT commands

`mqtt/commands.rs`: the commands that messages parse to, and the event a command is sent as. With it,
what the hub echoes after a command (`mqtt/hub.rs`) and what the camera-status watcher of `main.rs` calls
the values that the camera reports.
-/

namespace Buddy3dProxy.Mqtt

open Signaling (Outbound)

inductive Command where
  /-- 1=Auto, 2=Day, 3=Night. -/
  | setMode (mode : UInt32)
  /-- 1=SD, 2=HD, 3=FHD. -/
  | setQuality (quality : UInt32)
  | reboot
  deriving DecidableEq, Repr

/-- `parse`. -/
def parse (topicSuffix : String) (payload : List UInt8) : Option Command :=
  match Rust.fromUtf8 payload with
  | none => none
  | some text =>
    let payload := String.ofList (Rust.trim text)
    if topicSuffix = "mode/set" then
      if payload = "Auto" then some (.setMode 1)
      else if payload = "Day" then some (.setMode 2)
      else if payload = "Night" then some (.setMode 3)
      else none
    else if topicSuffix = "quality/set" then
      if payload = "SD" then some (.setQuality 1)
      else if payload = "HD" then some (.setQuality 2)
      else if payload = "FHD" then some (.setQuality 3)
      else none
    else if topicSuffix = "reboot/press" then some .reboot
    else none

/-- A topic with a retained state. -/
inductive Setting where
  | mode
  | quality
  deriving DecidableEq, Repr

/-- The names of the modes and qualities in a `Status` of the camera. -/
def modeName (mode : UInt32) : Option String :=
  if mode = 1 then some "Auto" else if mode = 2 then some "Day" else if mode = 3 then some "Night" else none

def qualityName (quality : UInt32) : Option String :=
  if quality = 1 then some "SD" else if quality = 2 then some "HD" else if quality = 3 then some "FHD"
  else none

namespace Command

/-- The event of a command, as `dispatch` and the transient signaler send it. -/
def outbound (cameraToken : String) : Command → Outbound
  | setMode m => .binaryEvent "configuration" (Prusa.encodeSetMode m cameraToken) false
  | setQuality q => .binaryEvent "configuration" (Prusa.encodeSetQuality q cameraToken) false
  | reboot => .binaryEvent "trigger" (Prusa.encodeCameraTrigger 9 cameraToken) false

/-- What is published once a command has been dispatched. -/
def echo (cmd : Command) : Option (Setting × String) :=
  if cmd = .setMode 1 then some (.mode, "Auto")
  else if cmd = .setMode 2 then some (.mode, "Day")
  else if cmd = .setMode 3 then some (.mode, "Night")
  else if cmd = .setQuality 1 then some (.quality, "SD")
  else if cmd = .setQuality 2 then some (.quality, "HD")
  else if cmd = .setQuality 3 then some (.quality, "FHD")
  else none

/-- The command sets `k`. -/
def sets (k : Setting) : Command → Bool
  | setMode _ => k = .mode
  | setQuality _ => k = .quality
  | reboot => false

/-- The name of the value that the event of a command sets the camera to. -/
def value : Command → Option String
  | setMode m => modeName m
  | setQuality q => qualityName q
  | reboot => none

theorem modeName_inj {m n : UInt32} {v : String} (hm : modeName m = some v) (hn : modeName n = some v) :
    m = n := by
  unfold modeName at hm hn
  split_ifs at hm hn <;> cases hm
  all_goals first | exact absurd hn (by decide) | simp_all

theorem qualityName_inj {m n : UInt32} {v : String} (hm : qualityName m = some v)
    (hn : qualityName n = some v) : m = n := by
  unfold qualityName at hm hn
  split_ifs at hm hn <;> cases hm
  all_goals first | exact absurd hn (by decide) | simp_all

/-- The value says which of the commands for a setting it is. -/
theorem value_inj {k : Setting} {cmd cmd' : Command} (hk : cmd.sets k = true) (hk' : cmd'.sets k = true)
    {v : String} (h : cmd.value = some v) (h' : cmd'.value = some v) : cmd = cmd' := by
  cases cmd with
  | setMode m =>
    cases cmd' with
    | setMode n => rw [modeName_inj h h']
    | setQuality n =>
      have hmode : k = .mode := of_decide_eq_true hk
      rw [of_decide_eq_true hk'] at hmode
      cases hmode
    | reboot => cases hk'
  | setQuality m =>
    cases cmd' with
    | setMode n =>
      have hmode : k = .mode := of_decide_eq_true hk'
      rw [of_decide_eq_true hk] at hmode
      cases hmode
    | setQuality n => rw [qualityName_inj h h']
    | reboot => cases hk'
  | reboot => cases hk

/-- An event says which command it sends. -/
theorem outbound_inj {cameraToken : String} {cmd cmd' : Command}
    (h : cmd.outbound cameraToken = cmd'.outbound cameraToken) : cmd = cmd' := by
  cases cmd with
  | setMode m =>
    cases cmd' with
    | setMode n => rw [Prusa.encodeSetMode_inj (Outbound.binaryEvent.inj h).2.1]
    | setQuality n =>
      exact absurd (Outbound.binaryEvent.inj h).2.1 (Prusa.encodeSetMode_ne_encodeSetQuality m n _)
    | reboot => simp [outbound] at h
  | setQuality m =>
    cases cmd' with
    | setMode n =>
      exact absurd (Outbound.binaryEvent.inj h).2.1.symm (Prusa.encodeSetMode_ne_encodeSetQuality n m _)
    | setQuality n => rw [Prusa.encodeSetQuality_inj (Outbound.binaryEvent.inj h).2.1]
    | reboot => simp [outbound] at h
  | reboot =>
    cases cmd' with
    | reboot => rfl
    | _ => simp [outbound] at h

end Command

/-- The commands a message can be. -/
theorem mem_of_parse {topicSuffix : String} {payload : List UInt8} {cmd : Command}
    (h : parse topicSuffix payload = some cmd) :
    cmd ∈ [Command.setMode 1, .setMode 2, .setMode 3, .setQuality 1, .setQuality 2, .setQuality 3,
      .reboot] := by
  unfold parse at h
  simp only at h
  repeat' split at h
  all_goals cases h
  all_goals simp

/-- A message that sets something is echoed on the topic of what it sets, with the value that it sets. -/
theorem echo_of_parse {topicSuffix : String} {payload : List UInt8} {cmd : Command} {k : Setting}
    (h : parse topicSuffix payload = some cmd) (hk : cmd.sets k = true) :
    ∃ value, cmd.echo = some (k, value) ∧ cmd.value = some value := by
  have hmem := mem_of_parse h
  simp only [List.mem_cons, List.not_mem_nil, or_false] at hmem
  rcases hmem with rfl | rfl | rfl | rfl | rfl | rfl | rfl
  all_goals cases k
  all_goals first | exact absurd hk (by decide) | exact ⟨_, rfl, rfl⟩

/-- Nothing is echoed but on the topic of what the command sets. -/
theorem sets_of_echo {cmd : Command} {k : Setting} {value : String} (h : cmd.echo = some (k, value)) :
    cmd.sets k = true := by
  unfold Command.echo at h
  repeat' split at h
  all_goals simp_all [Command.sets]

end Buddy3dProxy.Mqtt
