import Buddy3dProxy.Mqtt.Hub
import Buddy3dProxy.Rust.Lines

/-!
# Discovery

`mqtt/discovery.rs`: what the proxy announces to Home Assistant, and the requests that
`Hub::announce`, `republish_with_sw_version` and the publishers of `mqtt/hub.rs` send. An entity
names the topics on which it is read and commanded; the hub reads the commands off the topics by their
suffix alone.
-/

namespace Buddy3dProxy.Mqtt

/-- The JSON values of a payload. -/
inductive Value where
  | string (s : String)
  | array (items : List String)
  deriving DecidableEq, Repr

/-- A JSON object. -/
abbrev Fields := List (String × Value)

structure DiscoveryMessage where
  topic : String
  /-- The fields of the payload but `device`. -/
  payload : Fields
  device : Fields
  deriving DecidableEq, Repr

structure DeviceIdentity where
  cameraId : String
  cameraName : String
  swVersion : String
  topicPrefix : String
  discoveryPrefix : String

/-- The part of `Camera` (`prusa/api.rs`) that `main.rs` takes the identity from. -/
structure Camera where
  id : UInt64
  name : Option String

namespace DeviceIdentity

variable (id : DeviceIdentity)

def deviceBlock : Fields :=
  [("identifiers", .array ["buddy3d-proxy-" ++ id.cameraId]),
    ("name", .string id.cameraName),
    ("manufacturer", .string "Prusa"),
    ("model", .string "Buddy3D Camera"),
    ("sw_version", .string id.swVersion)]

def topicRoot : String := id.topicPrefix ++ "/" ++ id.cameraId

/-- A topic of the camera. -/
def topic (suffix : String) : String := id.topicRoot ++ "/" ++ suffix

def discoveryTopic (component objectId : String) : String :=
  id.discoveryPrefix ++ "/" ++ component ++ "/buddy3d_proxy_" ++ id.cameraId ++ "/" ++ objectId ++
    "/config"

def uniqueId (entity : String) : String := "buddy3d_proxy_" ++ id.cameraId ++ "_" ++ entity

/-- The identity that `main.rs` gives the hub, as the settings are. -/
def ofCamera (c : Camera) (swVersion topicPrefix discoveryPrefix : String) : DeviceIdentity :=
  ⟨toString c.id.toNat, c.name.getD "buddy3d", swVersion, topicPrefix, discoveryPrefix⟩

end DeviceIdentity

def camera (id : DeviceIdentity) : DiscoveryMessage where
  topic := id.discoveryTopic "camera" "snapshot"
  payload :=
    [("name", .string "Snapshot"),
      ("unique_id", .string (id.uniqueId "camera")),
      ("topic", .string (id.topic "snapshot")),
      ("availability_topic", .string (id.topic "availability"))]
  device := id.deviceBlock

def stateSensor (id : DeviceIdentity) : DiscoveryMessage where
  topic := id.discoveryTopic "sensor" "state"
  payload :=
    [("name", .string "State"),
      ("unique_id", .string (id.uniqueId "state")),
      ("state_topic", .string (id.topic "state")),
      ("availability_topic", .string (id.topic "availability")),
      ("icon", .string "mdi:cctv")]
  device := id.deviceBlock

def modeSelect (id : DeviceIdentity) : DiscoveryMessage where
  topic := id.discoveryTopic "select" "mode"
  payload :=
    [("name", .string "Mode"),
      ("unique_id", .string (id.uniqueId "mode")),
      ("command_topic", .string (id.topic "mode/set")),
      ("state_topic", .string (id.topic "mode/state")),
      ("options", .array ["Auto", "Day", "Night"]),
      ("availability_topic", .string (id.topic "availability")),
      ("icon", .string "mdi:weather-night")]
  device := id.deviceBlock

def qualitySelect (id : DeviceIdentity) : DiscoveryMessage where
  topic := id.discoveryTopic "select" "quality"
  payload :=
    [("name", .string "Quality"),
      ("unique_id", .string (id.uniqueId "quality")),
      ("command_topic", .string (id.topic "quality/set")),
      ("state_topic", .string (id.topic "quality/state")),
      ("options", .array ["SD", "HD", "FHD"]),
      ("availability_topic", .string (id.topic "availability")),
      ("icon", .string "mdi:high-definition")]
  device := id.deviceBlock

def rebootButton (id : DeviceIdentity) : DiscoveryMessage where
  topic := id.discoveryTopic "button" "reboot"
  payload :=
    [("name", .string "Reboot Camera"),
      ("unique_id", .string (id.uniqueId "reboot")),
      ("command_topic", .string (id.topic "reboot/press")),
      ("payload_press", .string "PRESS"),
      ("availability_topic", .string (id.topic "availability")),
      ("device_class", .string "restart")]
  device := id.deviceBlock

/-- All discovery messages, in publish order. -/
def all (id : DeviceIdentity) : List DiscoveryMessage :=
  [camera id, stateSensor id, modeSelect id, qualitySelect id, rebootButton id]

/-! ## Requests -/

inductive Payload where
  | discovery (payload device : Fields)
  | text (s : String)
  | jpeg (bytes : List UInt8)
  deriving DecidableEq, Repr

/-- A request to the MQTT client. All of them ask for QoS 1. -/
inductive Request where
  | publish (topic : String) (retain : Bool) (payload : Payload)
  | subscribe (topic : String)
  deriving DecidableEq, Repr

def DiscoveryMessage.request (m : DiscoveryMessage) : Request :=
  .publish m.topic true (.discovery m.payload m.device)

def Setting.name : Setting → String
  | mode => "mode"
  | quality => "quality"

namespace DeviceIdentity

variable (id : DeviceIdentity)

/-- What `Hub::announce` sends. -/
def announce : List Request :=
  (all id).map DiscoveryMessage.request ++
    .publish (id.topic "availability") true (.text "online") ::
      ["mode/set", "quality/set", "reboot/press"].map fun sub => .subscribe (id.topic sub)

def republishWithSwVersion (swVersion : String) : List Request :=
  (all { id with swVersion }).map DiscoveryMessage.request

def publishState (state : String) : Request := .publish (id.topic "state") true (.text state)

def publishSnapshot (jpeg : List UInt8) : Request := .publish (id.topic "snapshot") true (.jpeg jpeg)

/-- The topic of a setting. -/
def settingTopic (k : Setting) : String := id.topic (k.name ++ "/state")

/-- `publish_mode_state` and `publish_quality_state`. -/
def publishSetting (k : Setting) (value : String) : Request :=
  .publish (id.settingTopic k) true (.text value)

end DeviceIdentity

/-- `CameraCapabilities` of a `Status` event, with what the watcher in `main.rs` reads. -/
structure Capabilities where
  fwVersion : String
  /-- `mode` and `quality` of the `StreamConfig`. -/
  streamConfig : Option (UInt32 × UInt32)

/-- What the camera-status watcher of `main.rs` sends for a `Status` with these capabilities. -/
def statusRequests (id : DeviceIdentity) (pkgVersion : String) (caps : Capabilities) : List Request :=
  (if caps.fwVersion.isEmpty then []
    else id.republishWithSwVersion (caps.fwVersion ++ " (proxy " ++ pkgVersion ++ ")")) ++
  match caps.streamConfig with
  | none => []
  | some (mode, quality) =>
    ((modeName mode).map (id.publishSetting .mode)).toList ++
      ((qualityName quality).map (id.publishSetting .quality)).toList

/-! ## Topics -/

/-- The suffixes that `announce` subscribes to. -/
def commandSuffixes : List String := ["mode/set", "quality/set", "reboot/press"]

theorem commandSuffixes_apart {a b : List Char} {sub sub' : String} (hsub : sub ∈ commandSuffixes)
    (hsub' : sub' ∈ commandSuffixes) (h : a ++ '/' :: sub.toList = b ++ '/' :: sub'.toList) :
    a = b ∧ sub = sub' := by
  have hrev := congrArg List.reverse h
  simp only [commandSuffixes, List.mem_cons, List.not_mem_nil, or_false] at hsub hsub'
  rcases hsub with rfl | rfl | rfl <;> rcases hsub' with rfl | rfl | rfl
  all_goals simp at hrev
  all_goals exact ⟨hrev, rfl⟩

theorem count_slash {sub : String} (hsub : sub ∈ commandSuffixes) : sub.toList.count '/' = 1 := by
  simp only [commandSuffixes, List.mem_cons, List.not_mem_nil, or_false] at hsub
  rcases hsub with rfl | rfl | rfl <;> decide

/-- Nothing but these is a command. -/
theorem mem_commandSuffixes_of_parse {suffix : String} {payload : List UInt8}
    (h : (parse suffix payload).isSome = true) : suffix ∈ commandSuffixes := by
  by_contra hne
  simp only [commandSuffixes, List.mem_cons, List.not_mem_nil, or_false, not_or] at hne
  obtain ⟨hmode, hquality, hreboot⟩ := hne
  unfold parse at h
  split at h
  · cases h
  · simp [hmode, hquality, hreboot] at h

/-- On each of them some payload is one. -/
theorem exists_parse_of_mem {suffix : String} (h : suffix ∈ commandSuffixes) :
    ∃ payload, (parse suffix payload).isSome = true := by
  simp only [commandSuffixes, List.mem_cons, List.not_mem_nil, or_false] at h
  rcases h with rfl | rfl | rfl
  · exact ⟨[68, 97, 121], by decide +kernel⟩
  · exact ⟨[83, 68], by decide +kernel⟩
  · exact ⟨[], by decide +kernel⟩

namespace DeviceIdentity

variable {id id' : DeviceIdentity}

theorem toList_topic (suffix : String) :
    (id.topic suffix).toList = id.topicRoot.toList ++ '/' :: suffix.toList := by
  simp [topic]

theorem toList_topicRoot : id.topicRoot.toList = id.topicPrefix.toList ++ '/' :: id.cameraId.toList := by
  simp [topicRoot]

theorem topic_inj {suffix suffix' : String} (h : id.topic suffix = id.topic suffix') : suffix = suffix' := by
  have hlist := congrArg String.toList h
  rw [toList_topic, toList_topic] at hlist
  exact String.toList_injective (List.cons.inj (List.append_cancel_left hlist)).2

end DeviceIdentity

namespace Hub

variable {s : Hub} {id : DeviceIdentity}

/-- The hub finds the suffix of a topic of its camera. -/
theorem suffix_topic (h : s.topicPrefix = id.topicRoot ++ "/") (rest : String) :
    s.suffix (id.topic rest) = rest := by
  have hbefore : s.topicPrefix.toList.isPrefixOf? (id.topic rest).toList = some rest.toList := by
    rw [List.isPrefixOf?_eq_some_iff_append_eq, h, DeviceIdentity.toList_topic]
    simp
  rw [Hub.suffix, hbefore]
  exact String.ofList_toList

/-- What is left of a topic is the topic, or it had the prefix. -/
theorem suffix_cases (s : Hub) (topic : String) :
    s.suffix topic = topic ∨ topic.toList = s.topicPrefix.toList ++ (s.suffix topic).toList := by
  unfold Hub.suffix
  cases hbefore : s.topicPrefix.toList.isPrefixOf? topic.toList with
  | none => exact .inl rfl
  | some rest =>
    right
    have hrest := List.append_eq_of_isPrefixOf?_eq_some hbefore
    simpa using hrest.symm

/-- A hub takes a command topic for one of its own only if the camera has the same root. -/
theorem topicRoot_eq_of_suffix {id' : DeviceIdentity} {sub : String}
    (h : s.topicPrefix = id.topicRoot ++ "/") (hsub : sub ∈ commandSuffixes)
    (hsuffix : s.suffix (id'.topic sub) ∈ commandSuffixes) : id.topicRoot = id'.topicRoot := by
  rcases s.suffix_cases (id'.topic sub) with hsame | hcut
  · -- a whole topic has more slashes than a suffix
    rw [hsame] at hsuffix
    have hcount := count_slash hsuffix
    rw [DeviceIdentity.toList_topic, DeviceIdentity.toList_topicRoot] at hcount
    simp only [List.count_append, List.count_cons_self] at hcount
    omega
  · rw [h, DeviceIdentity.toList_topic] at hcut
    have hroots : id'.topicRoot.toList ++ '/' :: sub.toList =
        id.topicRoot.toList ++ '/' :: (s.suffix (id'.topic sub)).toList := by
      simpa using hcut
    exact (String.toList_injective (commandSuffixes_apart hsub hsuffix hroots).1).symm

end Hub

/-! ## Two cameras on one broker -/

/-- Of each entity, the component, the object and the end of its unique id. -/
def entities : List (String × String × String) :=
  [("camera", "snapshot", "camera"), ("sensor", "state", "state"), ("select", "mode", "mode"),
    ("select", "quality", "quality"), ("button", "reboot", "reboot")]

/-- The entities are told apart by the object and by the end of the unique id. -/
theorem entities_apart {e e' : String × String × String} (he : e ∈ entities) (he' : e' ∈ entities)
    (h : e.2.1 = e'.2.1 ∨ e.2.2 = e'.2.2) : e = e' := by
  have hall : ∀ x ∈ entities, ∀ y ∈ entities, x.2.1 = y.2.1 ∨ x.2.2 = y.2.2 → x = y := by decide
  exact hall e he e' he' h

theorem entities_object {e : String × String × String} (he : e ∈ entities) : '/' ∉ e.2.1.toList := by
  have hall : ∀ x ∈ entities, '/' ∉ x.2.1.toList := by decide
  exact hall e he

/-- No entity is listed twice. -/
theorem index_unique {e e' : String × String × String} {i j : Nat} (hi : entities[i]? = some e)
    (hj : entities[j]? = some e') (h : e = e') : i = j := by
  have hnodup : entities.Nodup := by decide
  subst h
  exact (List.getElem?_inj (List.getElem?_eq_some_iff.mp hi).1 hnodup).mp (hi.trans hj.symm)

/-- The messages are about the entities, in their order. -/
theorem exists_entity {id : DeviceIdentity} {m : DiscoveryMessage} {i : Nat} (hm : (all id)[i]? = some m) :
    ∃ e, entities[i]? = some e ∧ m.topic = id.discoveryTopic e.1 e.2.1 ∧
      m.payload.lookup "unique_id" = some (.string (id.uniqueId e.2.2)) := by
  match i, hm with
  | 0, rfl | 1, rfl | 2, rfl | 3, rfl | 4, rfl => exact ⟨_, rfl, rfl, rfl⟩

namespace DeviceIdentity

variable {id id' : DeviceIdentity}

/-- The identity has the id of a camera. -/
def Numbered (id : DeviceIdentity) : Prop := ∀ c : Char, c.isDigit = false → c ∉ id.cameraId.toList

theorem numbered_ofCamera (c : Camera) (swVersion topicPrefix discoveryPrefix : String) :
    (ofCamera c swVersion topicPrefix discoveryPrefix).Numbered := by
  intro x hx
  rw [ofCamera, Nat.toString_eq_repr, Nat.toList_repr]
  exact Rust.not_mem_toDigits hx _

theorem cameraId_inj {c c' : Camera} {v v' t t' d d' : String}
    (h : (ofCamera c v t d).cameraId = (ofCamera c' v' t' d').cameraId) : c.id = c'.id := by
  have hdigits := congrArg (Rust.parseUnsigned UInt64.size ·.toList) h
  simp only [ofCamera, Nat.toString_eq_repr, Nat.toList_repr] at hdigits
  rw [Rust.parseUnsigned_toDigits c.id.toNat_lt, Rust.parseUnsigned_toDigits c'.id.toNat_lt] at hdigits
  exact UInt64.toNat_inj.mp (Option.some.inj hdigits)

theorem topicRoot_inj (hid : id.Numbered) (hother : id'.Numbered) (h : id.topicRoot = id'.topicRoot) :
    id.topicPrefix = id'.topicPrefix ∧ id.cameraId = id'.cameraId := by
  have hlist := congrArg String.toList h
  rw [toList_topicRoot, toList_topicRoot] at hlist
  obtain ⟨hbefore, hcamera⟩ := Rust.append_cons_inj_last (hid '/' rfl) (hother '/' rfl) hlist
  exact ⟨String.toList_injective hbefore, String.toList_injective hcamera⟩

theorem uniqueId_inj (hid : id.Numbered) (hother : id'.Numbered) {entity entity' : String}
    (h : id.uniqueId entity = id'.uniqueId entity') : id.cameraId = id'.cameraId ∧ entity = entity' := by
  have hlist := congrArg String.toList h
  simp only [uniqueId, String.toList_append, List.append_assoc] at hlist
  obtain ⟨hcamera, hentity⟩ :=
    Rust.append_cons_inj (hid '_' rfl) (hother '_' rfl) (List.append_cancel_left hlist)
  exact ⟨String.toList_injective hcamera, String.toList_injective hentity⟩

theorem toList_discoveryTopic (component objectId : String) :
    (id.discoveryTopic component objectId).toList =
      (id.discoveryPrefix.toList ++ ('/' :: component.toList ++ "/buddy3d_proxy".toList) ++
        '_' :: id.cameraId.toList) ++ '/' :: objectId.toList ++ "/config".toList := by
  simp [discoveryTopic]

theorem discoveryTopic_inj (hid : id.Numbered) (hother : id'.Numbered) {e e' : String × String × String}
    (he : e ∈ entities) (he' : e' ∈ entities)
    (h : id.discoveryTopic e.1 e.2.1 = id'.discoveryTopic e'.1 e'.2.1) :
    id.discoveryPrefix = id'.discoveryPrefix ∧ id.cameraId = id'.cameraId ∧ e = e' := by
  have hlist := congrArg String.toList h
  rw [toList_discoveryTopic, toList_discoveryTopic] at hlist
  -- the object stands behind the last slash, the id behind the last underscore before it
  obtain ⟨hfront, hobject⟩ := Rust.append_cons_inj_last (entities_object he) (entities_object he')
    (List.append_cancel_right hlist)
  obtain ⟨hbefore, hcamera⟩ := Rust.append_cons_inj_last (hid '_' rfl) (hother '_' rfl) hfront
  have hee : e = e' := entities_apart he he' (.inl (String.toList_injective hobject))
  subst hee
  exact ⟨String.toList_injective (List.append_cancel_right hbefore), String.toList_injective hcamera, rfl⟩

end DeviceIdentity

/-- The hub that is given an identity. -/
def DeviceIdentity.hub (id : DeviceIdentity) : Hub := .new (id.topicRoot ++ "/")

/-- The hub takes what some message says on this topic for a command. -/
def Hub.Hears (s : Hub) (topic : String) : Prop :=
  ∃ payload, (parse (s.suffix topic) payload).isSome = true

theorem Hub.hears_iff {id id' : DeviceIdentity} {sub : String} (hsub : sub ∈ commandSuffixes) :
    id.hub.Hears (id'.topic sub) ↔ id.topicRoot = id'.topicRoot := by
  constructor
  · rintro ⟨payload, hcmd⟩
    exact topicRoot_eq_of_suffix rfl hsub (mem_commandSuffixes_of_parse hcmd)
  · intro hroot
    have hsame : id'.topic sub = id.topic sub := by rw [DeviceIdentity.topic, DeviceIdentity.topic, hroot]
    obtain ⟨payload, hcmd⟩ := exists_parse_of_mem hsub
    refine ⟨payload, ?_⟩
    rw [hsame, Hub.suffix_topic rfl]
    exact hcmd

/-- Two proxies on one broker. Two of their entities have the same unique id, or are announced on the same
topic, exactly if it is the same entity of the same camera, and a proxy hears the commands of the other
one exactly if both have the same camera and the same topic prefix. -/
theorem proxies_apart (c c' : Camera) (v v' t t' d d' : String) :
    (∀ (i j : Nat) (m m' : DiscoveryMessage), (all (.ofCamera c v t d))[i]? = some m →
      (all (.ofCamera c' v' t' d'))[j]? = some m' →
        (m.payload.lookup "unique_id" = m'.payload.lookup "unique_id" ↔ c.id = c'.id ∧ i = j) ∧
        (m.topic = m'.topic ↔ c.id = c'.id ∧ i = j ∧ d = d')) ∧
    ∀ sub ∈ commandSuffixes,
      (DeviceIdentity.ofCamera c v t d).hub.Hears ((DeviceIdentity.ofCamera c' v' t' d').topic sub) ↔
        c.id = c'.id ∧ t = t' := by
  have hid := DeviceIdentity.numbered_ofCamera c v t d
  have hother := DeviceIdentity.numbered_ofCamera c' v' t' d'
  refine ⟨?_, ?_⟩
  · intro i j m m' hm hm'
    obtain ⟨e, hi, htopic, hunique⟩ := exists_entity hm
    obtain ⟨e', hj, htopic', hunique'⟩ := exists_entity hm'
    have he := List.mem_of_getElem? hi
    have he' := List.mem_of_getElem? hj
    rw [htopic, htopic', hunique, hunique']
    refine ⟨⟨?_, ?_⟩, ?_, ?_⟩
    · intro h
      obtain ⟨hcamera, hentity⟩ :=
        DeviceIdentity.uniqueId_inj hid hother (Value.string.inj (Option.some.inj h))
      exact ⟨DeviceIdentity.cameraId_inj hcamera,
        index_unique hi hj (entities_apart he he' (.inr hentity))⟩
    · rintro ⟨hcamera, rfl⟩
      obtain rfl := Option.some.inj (hi.symm.trans hj)
      simp [DeviceIdentity.uniqueId, DeviceIdentity.ofCamera, hcamera]
    · intro h
      obtain ⟨hbefore, hcamera, hentity⟩ := DeviceIdentity.discoveryTopic_inj hid hother he he' h
      exact ⟨DeviceIdentity.cameraId_inj hcamera, index_unique hi hj hentity, hbefore⟩
    · rintro ⟨hcamera, rfl, rfl⟩
      obtain rfl := Option.some.inj (hi.symm.trans hj)
      simp [DeviceIdentity.discoveryTopic, DeviceIdentity.ofCamera, hcamera]
  · intro sub hsub
    rw [Hub.hears_iff hsub]
    constructor
    · intro hroot
      obtain ⟨hbefore, hcamera⟩ := DeviceIdentity.topicRoot_inj hid hother hroot
      exact ⟨DeviceIdentity.cameraId_inj hcamera, hbefore⟩
    · rintro ⟨hcamera, hbefore⟩
      simp [DeviceIdentity.topicRoot, DeviceIdentity.ofCamera, hcamera, hbefore]

end Buddy3dProxy.Mqtt
