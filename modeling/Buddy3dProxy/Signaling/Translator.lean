import Buddy3dProxy.Signaling.Connection
import Buddy3dProxy.Signaling.IceConfig
import Buddy3dProxy.WebRtc.Ice

/-!
# The translator task

The task that `from_transport` (`prusa/signaling/mod.rs`) spawns, from the CONNECT reply on: what it
submits, and what it delivers of the events it receives. Its sends succeed and its consumer is there.
-/

namespace Buddy3dProxy.Signaling

open SocketIo (Json)

/-! ## Messages -/

/-- A typed event for the session. -/
inductive SignalingEvent (Status Features Signal : Type) where
  | status (s : Status)
  | features (f : Features)
  | webRtc (signal : Signal)
  | unknown (name : String) (payload : List UInt8)
  | closed (reason : String)

structure ClientAuthentication where
  token : String
  clientKind : String
  accessJwt : String
  deriving DecidableEq, Repr

structure Trigger where
  field1 : UInt32
  field2 : UInt32
  token : String
  deriving DecidableEq, Repr

/-- A signal with the ICE configuration. -/
structure Kickoff extends WebRtc.WebRtcSignal where
  iceConfig : IceConfig
  deriving DecidableEq, Repr

/-- What the code uses of `prost`, whose decoded messages are of some types, and of the debug text of
a JSON value. -/
structure Protobuf (Status Features Signal : Type) where
  encodeClientAuthentication : ClientAuthentication → List UInt8
  encodeTrigger : Trigger → List UInt8
  encodeKickoff : Kickoff → List UInt8
  decodeStatus : List UInt8 → Option Status
  decodeFeatures : List UInt8 → Option Features
  decodeWebRtcSignal : List UInt8 → Option Signal
  debugPayload : List Json → String

/-- What a translator is spawned with. -/
structure Login where
  cameraToken : String
  accessJwt : String
  webrtcCfg : WebRtcConfig
  connectSid : String
  /-- Whether there is a sink for status events. -/
  statusSink : Bool

section Model

variable {Status Features Signal : Type} (pb : Protobuf Status Features Signal) (login : Login)

def translateBinary (name : String) (payload : List UInt8) : SignalingEvent Status Features Signal :=
  match name with
  | "status" => ((pb.decodeStatus payload).map .status).getD (.unknown name payload)
  | "features" => ((pb.decodeFeatures payload).map .features).getD (.unknown name payload)
  | "webrtc" => ((pb.decodeWebRtcSignal payload).map .webRtc).getD (.unknown name payload)
  | _ => .unknown name payload

def authEvent : Outbound :=
  .binaryEvent "client_authentication"
    (pb.encodeClientAuthentication ⟨login.cameraToken, "client", login.accessJwt⟩) true

def triggerEvent (field1 field2 : UInt32) : Outbound :=
  .binaryEvent "trigger" (pb.encodeTrigger ⟨field1, field2, login.cameraToken⟩) false

def kickoffEvent : Outbound :=
  .binaryEvent "webrtc"
    (pb.encodeKickoff
      ⟨⟨login.cameraToken, login.connectSid, login.connectSid, [], 1, 2⟩, buildIceConfig login.webrtcCfg⟩)
    false

/-- A translator between two events. -/
structure Translator (Status Features Signal : Type) where
  authAcked : Bool
  /-- What it has sent on the outbound channel. -/
  submitted : List Outbound
  delivered : List (SignalingEvent Status Features Signal)
  /-- What it has sent to the status sink. -/
  statuses : List Status
  ended : Bool

namespace Translator

def start : Translator Status Features Signal := ⟨false, [authEvent pb login], [], [], false⟩

/-- The payload of an ACK that reports success. -/
def success (payload : List Json) : Bool := (payload.head?.bind Json.asU64) = some 0

/-- One round of the loop. -/
def handle (t : Translator Status Features Signal) : Inbound → Translator Status Features Signal
  | .binaryEvent name payload =>
    let ev := translateBinary pb name payload
    { t with
      statuses := match login.statusSink, ev with
        | true, .status s => t.statuses ++ [s]
        | _, _ => t.statuses
      delivered := t.delivered ++ [ev] }
  | .ack id payload =>
    if t.authAcked = false ∧ id = 0 then
      if success payload then
        { t with
          authAcked := true
          submitted := t.submitted ++
            [triggerEvent pb login 1 0, triggerEvent pb login 0 1, kickoffEvent pb login] }
      else
        { t with
          delivered := t.delivered ++ [.closed ("auth ack rejected: " ++ pb.debugPayload payload)]
          ended := true }
    else t
  | .transportClosed reason => { t with delivered := t.delivered ++ [.closed reason] }
  | .disconnected => { t with delivered := t.delivered ++ [.closed "disconnect"] }
  | .connected _ => t

/-- Events that come after the end are left where they are. -/
def receive (t : Translator Status Features Signal) (ev : Inbound) : Translator Status Features Signal :=
  if t.ended then t else t.handle pb login ev

def run (events : List Inbound) : Translator Status Features Signal :=
  events.foldl (receive pb login) (start pb login)

end Translator

/-- The payload of the first ACK with id 0. -/
def firstAck : List Inbound → Option (List Json)
  | [] => none
  | .ack id payload :: rest => if id = 0 then some payload else firstAck rest
  | _ :: rest => firstAck rest

/-- The event that a transport event is delivered as. -/
def forwarded : Inbound → Option (SignalingEvent Status Features Signal)
  | .binaryEvent name payload => some (translateBinary pb name payload)
  | .transportClosed reason => some (.closed reason)
  | .disconnected => some (.closed "disconnect")
  | .ack _ _ | .connected _ => none

end Model

section Runs

variable {Status Features Signal : Type} {pb : Protobuf Status Features Signal} {login : Login}
  {t : Translator Status Features Signal}

/-! ## What the events so far have led to -/

/-- A translator that waits for the ACK. -/
structure Translator.Waiting (pb : Protobuf Status Features Signal) (login : Login)
    (events : List Inbound) (t : Translator Status Features Signal) : Prop where
  authAcked : t.authAcked = false
  submitted : t.submitted = [authEvent pb login]
  delivered : t.delivered = events.filterMap (forwarded pb)
  ended : t.ended = false

/-- A translator that has seen it. -/
structure Translator.Acked (pb : Protobuf Status Features Signal) (login : Login)
    (events : List Inbound) (t : Translator Status Features Signal) : Prop where
  authAcked : t.authAcked = true
  submitted : t.submitted = [authEvent pb login, triggerEvent pb login 1 0, triggerEvent pb login 0 1,
    kickoffEvent pb login]
  delivered : t.delivered = events.filterMap (forwarded pb)
  ended : t.ended = false

/-- A translator that has been rejected. -/
structure Translator.Rejected (pb : Protobuf Status Features Signal) (login : Login)
    (events : List Inbound) (payload : List Json) (t : Translator Status Features Signal) : Prop where
  submitted : t.submitted = [authEvent pb login]
  delivered : t.delivered = events.filterMap (forwarded pb) ++
    [.closed ("auth ack rejected: " ++ pb.debugPayload payload)]
  ended : t.ended = true

namespace Translator

variable (pb login) in
/-- Apart from the ACK, an event is delivered if it is one to deliver, and that is all. -/
theorem handle_eq {ev : Inbound} (h : t.authAcked = true ∨ firstAck [ev] = none) :
    ∃ statuses, t.handle pb login ev =
      { t with delivered := t.delivered ++ (forwarded pb ev).toList, statuses := statuses } := by
  cases ev with
  | binaryEvent name payload => exact ⟨_, rfl⟩
  | ack id payload =>
    have hlater : ¬ (t.authAcked = false ∧ id = 0) := by
      rintro ⟨hfirst, rfl⟩
      rcases h with hacked | hnone
      · rw [hfirst] at hacked
        cases hacked
      · simp [firstAck] at hnone
    exact ⟨t.statuses, by simp [handle, hlater, forwarded]⟩
  | transportClosed reason => exact ⟨t.statuses, rfl⟩
  | disconnected => exact ⟨t.statuses, rfl⟩
  | connected sid => exact ⟨t.statuses, by simp [handle, forwarded]⟩

theorem Waiting.start : (start pb login).Waiting pb login [] := ⟨rfl, rfl, rfl, rfl⟩

theorem Waiting.receive {events : List Inbound} (h : t.Waiting pb login events) {ev : Inbound}
    (hev : firstAck [ev] = none) : (t.receive pb login ev).Waiting pb login (events ++ [ev]) := by
  obtain ⟨statuses, heq⟩ := handle_eq pb login (.inr hev)
  unfold Translator.receive
  rw [if_neg (by simp [h.ended]), heq]
  refine ⟨h.authAcked, h.submitted, ?_, h.ended⟩
  rw [h.delivered, List.filterMap_append]
  cases hf : forwarded pb ev <;> simp [hf]

theorem Waiting.accept {events : List Inbound} (h : t.Waiting pb login events) {payload : List Json}
    (hsuccess : success payload = true) :
    (t.receive pb login (.ack 0 payload)).Acked pb login (events ++ [.ack 0 payload]) := by
  unfold Translator.receive handle
  rw [if_neg (by simp [h.ended])]
  simp only [h.authAcked, hsuccess, and_self, if_true]
  have hnone : [Inbound.ack 0 payload].filterMap (forwarded pb) = [] := rfl
  refine ⟨rfl, by simp [h.submitted], ?_, h.ended⟩
  rw [List.filterMap_append, hnone, List.append_nil]
  exact h.delivered

theorem Acked.receive {events : List Inbound} (h : t.Acked pb login events) (ev : Inbound) :
    (t.receive pb login ev).Acked pb login (events ++ [ev]) := by
  obtain ⟨statuses, heq⟩ := handle_eq pb login (.inl h.authAcked)
  unfold Translator.receive
  rw [if_neg (by simp [h.ended]), heq]
  refine ⟨h.authAcked, h.submitted, ?_, h.ended⟩
  rw [h.delivered, List.filterMap_append]
  cases hf : forwarded pb ev <;> simp [hf]

theorem Acked.foldl {events : List Inbound} (h : t.Acked pb login events) (more : List Inbound) :
    (more.foldl (Translator.receive pb login) t).Acked pb login (events ++ more) := by
  induction more generalizing events t with
  | nil => simpa using h
  | cons ev more ih => simpa using ih (h.receive ev)

theorem Rejected.foldl {events : List Inbound} {payload : List Json}
    (h : t.Rejected pb login events payload) (more : List Inbound) :
    (more.foldl (Translator.receive pb login) t).Rejected pb login events payload := by
  induction more with
  | nil => exact h
  | cons ev more ih =>
    rw [List.foldl_cons, Translator.receive, if_pos h.ended]
    exact ih

end Translator

end Runs

/-! ## The translator among the other tasks of a connection -/

/-- The configuration of a connection for the messages of a login; `view` is what the session driver
tells apart of an event. -/
structure Realizes {Status Features Signal : Type} (cfg : Config) (pb : Protobuf Status Features Signal)
    (login : Login) (view : SignalingEvent Status Features Signal → WebRtc.SignalingEvent) : Prop where
  trigger_first : .binaryEvent "trigger" (cfg.trigger 1 0) false = triggerEvent pb login 1 0
  trigger_second : .binaryEvent "trigger" (cfg.trigger 0 1) false = triggerEvent pb login 0 1
  kickoff : .binaryEvent "webrtc" (cfg.kickoff login.connectSid) false = kickoffEvent pb login
  translate : ∀ name payload, cfg.translateBinary name payload = view (translateBinary pb name payload)
  closed : ∀ reason, view (.closed reason) = .closed

namespace Connection

variable {cfg : Config} {s : Connection}

/-- The steps of the translator alone. -/
theorem translator_snoc {s₁ s₂ : Connection} {as : List Step}
    (h : Transition.Path (connectionSystem cfg) s as s₁) (hs : s₁.translatorStep cfg = some s₂) :
    Transition.Path (connectionSystem cfg) s (as ++ [.translator]) s₂ :=
  .snoc h trivial hs

theorem path_take (hpc : s.translator = .receiving) {ev : Inbound} {rest : List Inbound}
    (hraw : s.rawEvents = ev :: rest) :
    Transition.Path (connectionSystem cfg) s [.translator] ({ s with rawEvents := rest }.takeEvent cfg ev) :=
  translator_snoc (.nil s) (by simp only [translatorStep, hpc, hraw])

theorem path_forward {s₁ : Connection} {as : List Step} {ev : WebRtc.SignalingEvent}
    (h : Transition.Path (connectionSystem cfg) s as s₁) (hpc : s₁.translator = .forwarding ev)
    (hroom : s₁.events.length < 64) :
    Transition.Path (connectionSystem cfg) s (as ++ [.translator])
      { s₁ with events := s₁.events ++ [ev], translator := .receiving } :=
  translator_snoc h (by simp only [translatorStep, hpc, if_pos hroom])

theorem send_of_room (hopen : s.outboundClosed = false) (hroom : s.outbound.length < 64)
    (out : Outbound) : s.send out = some (s.put out) := by
  simp [send, hopen, hroom]

/-- After the ACK: the two triggers and the kick-off. -/
theorem path_triggers {as : List Step} {s₀ : Connection}
    (h : Transition.Path (connectionSystem cfg) s₀ as s)
    (hpc : s.translator = .sendingTriggers [(1, 0), (0, 1)]) (hopen : s.outboundClosed = false)
    (hroom : s.outbound.length + 3 ≤ 64) :
    Transition.Path (connectionSystem cfg) s₀ (as ++ [.translator] ++ [.translator] ++ [.translator])
      { ((s.put (.binaryEvent "trigger" (cfg.trigger 1 0) false)).put
          (.binaryEvent "trigger" (cfg.trigger 0 1) false)).put
            (.binaryEvent "webrtc" (cfg.kickoff s.socketSid) false) with translator := .receiving } := by
  let first := { s.put (.binaryEvent "trigger" (cfg.trigger 1 0) false) with
    translator := .sendingTriggers [(0, 1)] }
  let second := { first.put (.binaryEvent "trigger" (cfg.trigger 0 1) false) with
    translator := .sendingTriggers [] }
  have hlen₁ : first.outbound.length = s.outbound.length + 1 := by simp [first, put]
  have hlen₂ : second.outbound.length = s.outbound.length + 2 := by simp [first, second, put]
  have hfirst : s.translatorStep cfg = some first := by
    simp only [translatorStep, hpc, send_of_room hopen (show s.outbound.length < 64 by omega),
      Option.map_some, first]
  have hsecond : first.translatorStep cfg = some second := by
    have hsend := send_of_room (s := first) hopen (show first.outbound.length < 64 by omega)
      (.binaryEvent "trigger" (cfg.trigger 0 1) false)
    show (first.send _).map _ = some second
    rw [hsend]
    rfl
  refine translator_snoc (translator_snoc (translator_snoc h hfirst) hsecond) ?_
  have hsend := send_of_room (s := second) hopen (show second.outbound.length < 64 by omega)
    (.binaryEvent "webrtc" (cfg.kickoff s.socketSid) false)
  show (second.send (.binaryEvent "webrtc" (cfg.kickoff s.socketSid) false)).map _ = _
  rw [hsend]
  rfl

section Handle

variable {Status Features Signal : Type} {pb : Protobuf Status Features Signal} {login : Login}
  {view : SignalingEvent Status Features Signal → WebRtc.SignalingEvent}
  {t : Translator Status Features Signal}

theorem takeEvent_forwarded (hcfg : Realizes cfg pb login view) {ev : Inbound}
    {e : SignalingEvent Status Features Signal} (h : forwarded pb ev = some e) (s : Connection) :
    s.takeEvent cfg ev = { s with translator := .forwarding (view e) } := by
  cases ev with
  | binaryEvent name payload =>
    cases h
    simp only [takeEvent, hcfg.translate]
  | transportClosed reason =>
    cases h
    simp only [takeEvent, hcfg.closed]
  | disconnected =>
    cases h
    simp only [takeEvent, hcfg.closed]
  | ack id payload => cases h
  | connected sid => cases h

theorem eq_ack_of_firstAck {ev : Inbound} (h : firstAck [ev] ≠ none) : ∃ payload, ev = .ack 0 payload := by
  cases ev with
  | ack id payload =>
    by_cases hid : id = 0
    · exact ⟨payload, by rw [hid]⟩
    · simp [firstAck, hid] at h
  | _ => simp [firstAck] at h

theorem takeEvent_unchanged {ev : Inbound} (h : forwarded pb ev = none)
    (hlater : s.authAcked = true ∨ firstAck [ev] = none) : s.takeEvent cfg ev = s := by
  cases ev with
  | ack id payload =>
    have hnot : ¬ (s.authAcked = false ∧ id = 0) := by
      rintro ⟨hfirst, rfl⟩
      rcases hlater with hacked | hnone
      · rw [hfirst] at hacked
        cases hacked
      · simp [firstAck] at hnone
    exact if_neg hnot
  | connected sid => rfl
  | binaryEvent name payload => cases h
  | transportClosed reason => cases h
  | disconnected => cases h

/-- A round of the loop is a path of the connection, when there is room for what it sends. -/
theorem exists_path_handle (hcfg : Realizes cfg pb login view) (hended : t.ended = false)
    (hpc : s.translator = .receiving) (hacked : s.authAcked = t.authAcked)
    (hsid : s.socketSid = login.connectSid) {ev : Inbound} {rest : List Inbound}
    (hraw : s.rawEvents = ev :: rest) (hopen : s.outboundClosed = false)
    (hout : s.outbound.length + 3 ≤ 64) (hevents : s.events.length < 64) :
    ∃ as s' outs evs, Transition.Path (connectionSystem cfg) s as s' ∧ s'.rawEvents = rest ∧
      s'.authAcked = (t.handle pb login ev).authAcked ∧
      s'.translator = (if (t.handle pb login ev).ended then .stopped else .receiving) ∧
      (t.handle pb login ev).submitted = t.submitted ++ outs ∧ s'.outbound = s.outbound ++ outs ∧
      (t.handle pb login ev).delivered = t.delivered ++ evs ∧ s'.events = s.events ++ evs.map view := by
  have htake : Transition.Path (connectionSystem cfg) s [.translator]
      ({ s with rawEvents := rest }.takeEvent cfg ev) := path_take hpc hraw
  by_cases hlater : t.authAcked = true ∨ firstAck [ev] = none
  · obtain ⟨statuses, heq⟩ := Translator.handle_eq pb login hlater
    rw [heq]
    cases hf : forwarded pb ev with
    | some e =>
      rw [takeEvent_forwarded hcfg hf] at htake
      exact ⟨_, _, [], [e], path_forward htake rfl hevents, rfl, hacked, by simp [hended], by simp,
        by simp, by simp, by simp⟩
    | none =>
      rw [takeEvent_unchanged hf (by simpa only [hacked] using hlater)] at htake
      exact ⟨_, _, [], [], htake, rfl, hacked, by simp [hended, hpc], by simp, by simp, by simp, by simp⟩
  · -- the first ACK with id 0
    obtain ⟨hfirst, hack⟩ := not_or.mp hlater
    rw [Bool.not_eq_true] at hfirst
    obtain ⟨payload, rfl⟩ := eq_ack_of_firstAck hack
    rw [hfirst] at hacked
    have hauth : isAuthAck (.ack 0 payload) = Translator.success payload := by
      simp [isAuthAck, Translator.success]
    cases hsuccess : Translator.success payload with
    | true =>
      have hsend : { s with rawEvents := rest }.takeEvent cfg (.ack 0 payload) =
          { s with
            rawEvents := rest
            authAcked := true
            translator := .sendingTriggers [(1, 0), (0, 1)] } := by
        simp [takeEvent, hacked, hauth, hsuccess]
      have ht : t.handle pb login (.ack 0 payload) =
          { t with
            authAcked := true
            submitted := t.submitted ++
              [triggerEvent pb login 1 0, triggerEvent pb login 0 1, kickoffEvent pb login] } := by
        simp [Translator.handle, hfirst, hsuccess]
      rw [hsend] at htake
      rw [ht]
      refine ⟨_, _, _, [], path_triggers htake rfl hopen hout, rfl, rfl, by simp [hended], rfl, ?_, by simp,
        by simp [put]⟩
      simp [put, ← hcfg.trigger_first, ← hcfg.trigger_second, ← hcfg.kickoff, hsid]
    | false =>
      have hreject : { s with rawEvents := rest }.takeEvent cfg (.ack 0 payload) =
          { s with rawEvents := rest, translator := .rejecting } := by
        simp [takeEvent, hacked, hauth, hsuccess]
      have ht : t.handle pb login (.ack 0 payload) =
          { t with
            delivered := t.delivered ++ [.closed ("auth ack rejected: " ++ pb.debugPayload payload)]
            ended := true } := by
        simp [Translator.handle, hfirst, hsuccess]
      rw [hreject] at htake
      rw [ht]
      let s' : Connection :=
        { s with rawEvents := rest, events := s.events ++ [.closed], translator := .stopped }
      have hstop : Transition.Path (connectionSystem cfg) s [.translator, .translator] s' :=
        translator_snoc htake (by simp only [translatorStep, if_pos hevents, s'])
      exact ⟨_, s', [], _, hstop, rfl, hacked.trans hfirst.symm, rfl, by simp, by simp [s'], rfl,
        by simp [s', hcfg.closed]⟩

end Handle

end Connection

end Buddy3dProxy.Signaling
