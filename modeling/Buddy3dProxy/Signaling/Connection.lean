import Buddy3dProxy.Signaling.Transport
import Buddy3dProxy.Transition.Log
import Buddy3dProxy.WebRtc.Driver

/-!
# One signaling connection

The tasks that put events on the outbound channel of a connection: `from_transport` and its translator
task (`prusa/signaling/mod.rs`), `TransientSignaler::send` (`mqtt/transient.rs`), the session driver
(`webrtc_session.rs`) and the command dispatcher through `live_outbound` (`mqtt/commands.rs`). The
server's frames arrive as the events the transport makes of them.
-/

namespace Buddy3dProxy.Signaling

open SocketIo (Json)

/-- Inbound events from the server. -/
inductive Inbound where
  | connected (sid : Option String)
  | disconnected
  | binaryEvent (name : String) (payload : List UInt8)
  | ack (id : UInt64) (payload : List Json)
  | transportClosed (reason : String)

/-- Who called `connect`. -/
inductive Owner where
  /-- `TransientSignaler::send` with its two arguments. -/
  | transient (kind : String) (payload : List UInt8)
  /-- A WebRTC session. -/
  | session
  deriving DecidableEq, Repr

/-- What a connection is made for, with the protobuf encodings of its messages and the decoding of a
binary event as far as the session driver tells them apart. -/
structure Config where
  owner : Owner
  connectAuth : Json
  clientAuthentication : List UInt8
  trigger : Nat → Nat → List UInt8
  kickoff : String → List UInt8
  subscribeTrigger : List UInt8
  translateBinary : String → List UInt8 → WebRtc.SignalingEvent
  webRtcSignal : WebRtc.OutboundSignal → List UInt8

/-- Where the task that called `connect` stands. -/
inductive CallerPc where
  /-- Sending the Socket.IO CONNECT. -/
  | connecting
  | awaitingReply
  /-- `TransientSignaler::send`: about to send the subscribe trigger, in the pause after it, about to
  send the command, in the pause after that. -/
  | subscribing
  | pausing
  | commanding
  | lingering
  /-- `WebRtcFactory::connect`: building the session, and afterwards with the driver spawned. -/
  | building
  | driving
  /-- The connection is dropped. -/
  | done
  deriving DecidableEq, Repr

/-- Where the translator task stands. -/
inductive TranslatorPc where
  | notSpawned
  | sendingAuth
  | receiving
  /-- After the ACK: the triggers still to be sent, then the kick-off. -/
  | sendingTriggers (left : List (Nat × Nat))
  | forwarding (ev : WebRtc.SignalingEvent)
  /-- The ACK was no success. -/
  | rejecting
  | stopped
  deriving DecidableEq, Repr

/-- What happened on the connection, in order. -/
inductive Entry where
  | received (ev : Inbound)
  | put (out : Outbound)

structure Connection where
  caller : CallerPc
  translator : TranslatorPc
  authAcked : Bool
  socketSid : String
  rawEvents : List Inbound
  events : List WebRtc.SignalingEvent
  outbound : List Outbound
  /-- The transport has dropped its end of the outbound channel. -/
  outboundClosed : Bool
  driver : WebRtc.Driver
  /-- `live_outbound` holds the sender of this connection. -/
  registered : Bool
  /-- Commands being dispatched with a clone of the sender. -/
  dispatching : Nat
  log : List Entry

inductive Step where
  | sendConnect
  /-- The transport hands over an event of the server. -/
  | deliver (ev : Inbound)
  /-- `from_transport` takes the next event. -/
  | reply
  | translator
  /-- The next step of the owner's task. -/
  | caller
  /-- `WebRtcSession::new` fails. -/
  | buildFails
  | driver (a : WebRtc.Action)
  /-- `Joiner::drop` clears `live_outbound`. -/
  | unregister
  | dispatch
  | dispatcherSend (kind : String) (payload : List UInt8)
  /-- The transport takes the next outbound event. -/
  | transmit
  /-- The transport ends. -/
  | transportEnds

/-- The ACK of `client_authentication`: id 0 and the payload of a success. -/
def isAuthAck : Inbound → Bool
  | .ack id payload => id = 0 ∧ (payload.head?.bind Json.asU64) = some 0
  | _ => false

namespace Connection

def new : Connection where
  caller := .connecting
  translator := .notSpawned
  authAcked := false
  socketSid := ""
  rawEvents := []
  events := []
  outbound := []
  outboundClosed := false
  driver := .new
  registered := false
  dispatching := 0
  log := []

/-- Put an event on the outbound channel. -/
def put (s : Connection) (out : Outbound) : Connection :=
  { s with outbound := s.outbound ++ [out], log := s.log ++ [.put out] }

/-- `outbound.send`: waits for a slot. On a closed channel it returns with an error and puts nothing. -/
def send (s : Connection) (out : Outbound) : Option Connection :=
  if s.outboundClosed then some s
  else if s.outbound.length < 64 then some (s.put out)
  else none

/-- The translator handles an event it has taken. -/
def takeEvent (cfg : Config) (s : Connection) : Inbound → Connection
  | .binaryEvent name payload =>
    { s with translator := .forwarding (cfg.translateBinary name payload) }
  | .ack id payload =>
    if s.authAcked = false ∧ id = 0 then
      if isAuthAck (.ack id payload) then
        { s with authAcked := true, translator := .sendingTriggers [(1, 0), (0, 1)] }
      else { s with translator := .rejecting }
    else s
  | .transportClosed _ | .disconnected => { s with translator := .forwarding .closed }
  | .connected _ => s

/-- The next step of the translator task. -/
def translatorStep (cfg : Config) (s : Connection) : Option Connection :=
  match s.translator with
  | .notSpawned | .stopped => none
  | .sendingAuth =>
    (s.send (.binaryEvent "client_authentication" cfg.clientAuthentication true)).map fun s =>
      { s with translator := .receiving }
  | .receiving =>
    match s.rawEvents with
    | [] => none
    | ev :: rest => some ({ s with rawEvents := rest }.takeEvent cfg ev)
  | .sendingTriggers ((field1, field2) :: left) =>
    (s.send (.binaryEvent "trigger" (cfg.trigger field1 field2) false)).map fun s =>
      { s with translator := .sendingTriggers left }
  | .sendingTriggers [] =>
    (s.send (.binaryEvent "webrtc" (cfg.kickoff s.socketSid) false)).map fun s =>
      { s with translator := .receiving }
  | .forwarding ev =>
    if s.events.length < 64 then
      some { s with events := s.events ++ [ev], translator := .receiving }
    else none
  | .rejecting =>
    if s.events.length < 64 then
      some { s with events := s.events ++ [.closed], translator := .stopped }
    else none

/-- The owner drops the connection: the translator is cancelled. -/
def drop (s : Connection) : Connection := { s with caller := .done, translator := .stopped }

/-- `send` of the owner's task, which gives up when the channel is closed. -/
def callerSend (s : Connection) (out : Outbound) (next : CallerPc) : Option Connection :=
  (s.send out).map fun s => if s.outboundClosed then s.drop else { s with caller := next }

/-- The next step of the owner's task once it has the connection. -/
def callerStep (cfg : Config) (s : Connection) : Option Connection :=
  match s.caller, cfg.owner with
  | .subscribing, .transient _ _ =>
    s.callerSend (.binaryEvent "trigger" cfg.subscribeTrigger false) .pausing
  | .pausing, .transient _ _ => some { s with caller := .commanding }
  | .commanding, .transient kind payload =>
    if kind = "configuration" ∨ kind = "trigger" then
      s.callerSend (.binaryEvent kind payload false) .lingering
    else some s.drop
  | .lingering, .transient _ _ => some s.drop
  | .building, .session => some { s with caller := .driving, registered := true }
  | _, _ => none

/-- What a step of the session driver does to the channels: events come from the translator, signals
go out as `webrtc` events. -/
def driverChannels (cfg : Config) (s : Connection) : WebRtc.Action → Option Connection
  | .event ev =>
    match s.events with
    | [] => none
    | next :: rest => if next = ev then some { s with events := rest } else none
  | .written ok =>
    match s.driver.pc with
    | .writing signal =>
      if ok = s.outboundClosed then none
      else s.send (.binaryEvent "webrtc" (cfg.webRtcSignal signal) false)
    | _ => none
  | _ => some s

/-- A step of the session driver. When it stops, the connection is dropped. -/
def driverStep (cfg : Config) (s : Connection) (a : WebRtc.Action) : Option Connection :=
  if s.caller = .driving then
    match s.driver.step a, s.driverChannels cfg a with
    | some driver, some s =>
      if driver.pc = .stopped then some { s.drop with driver } else some { s with driver }
    | _, _ => none
  else none

def step (cfg : Config) (s : Connection) : Step → Option Connection
  | .sendConnect =>
    if s.caller = .connecting then s.callerSend (.connect cfg.connectAuth) .awaitingReply else none
  | .deliver ev =>
    if s.caller ≠ .done ∧ s.outboundClosed = false ∧ s.rawEvents.length < 64 then
      some { s with rawEvents := s.rawEvents ++ [ev], log := s.log ++ [.received ev] }
    else none
  | .reply =>
    if s.caller = .awaitingReply then
      match s.rawEvents with
      | [] => none
      | .connected sid :: rest =>
        some { s with
          rawEvents := rest
          socketSid := sid.getD ""
          translator := .sendingAuth
          caller :=
            match cfg.owner with
            | .transient _ _ => .subscribing
            | .session => .building }
      | .transportClosed _ :: _ => some { s with caller := .done }
      | _ :: rest => some { s with rawEvents := rest }
    else none
  | .translator => s.translatorStep cfg
  | .caller => s.callerStep cfg
  | .buildFails => if s.caller = .building then some s.drop else none
  | .driver a => s.driverStep cfg a
  | .unregister => some { s with registered := false }
  | .dispatch => if s.registered then some { s with dispatching := s.dispatching + 1 } else none
  | .dispatcherSend kind payload =>
    if 0 < s.dispatching ∧ (kind = "configuration" ∨ kind = "trigger") then
      (s.send (.binaryEvent kind payload false)).map fun s =>
        { s with dispatching := s.dispatching - 1 }
    else none
  | .transmit =>
    match s.outbound with
    | [] => none
    | _ :: rest => if s.outboundClosed then none else some { s with outbound := rest }
  | .transportEnds => some { s with outboundClosed := true }

end Connection

/-- The runs of a connection. -/
def connectionSystem (cfg : Config) : Transition.System Connection Step :=
  ⟨.new, Connection.step cfg⟩

/-! ## The gate -/

/-- The events received, oldest first. -/
def received : List Entry → List Inbound
  | [] => []
  | .received ev :: rest => ev :: received rest
  | .put _ :: rest => received rest

/-- After the first CONNECT reply, the ACK of `client_authentication` has come. -/
def acked : List Inbound → Bool
  | [] => false
  | .connected _ :: rest => rest.any isAuthAck
  | _ :: rest => acked rest

/-- An event other than `client_authentication`. -/
def Outbound.isGated : Outbound → Bool
  | .binaryEvent name _ _ => name ≠ "client_authentication"
  | .connect _ => false

/-- No event other than `client_authentication` was put on the channel before the ACK had been
received. -/
def Gated (log : List Entry) : Prop :=
  Transition.OnLog (fun pre e => ∀ out, e = .put out → out.isGated = true →
    acked (received pre) = true) log

def Inbound.isConnected : Inbound → Bool
  | .connected _ => true
  | _ => false

/-- The driver takes the event up as an offer. -/
def Config.isOffer (cfg : Config) : Inbound → Bool
  | .binaryEvent name payload =>
    match cfg.translateBinary name payload with
    | .offer _ => true
    | _ => false
  | _ => false

def Owner.isTransient : Owner → Bool
  | .transient _ _ => true
  | .session => false

/-- What sets the senders other than the translator going comes behind the ACK: the return of `connect`
to `TransientSignaler::send`, a message that finds the sender in `live_outbound`, and an offer of the
server behind its CONNECT reply. -/
def Connection.comesAfterAck (cfg : Config) (s : Connection) : Step → Bool
  | .reply => !cfg.owner.isTransient || !s.rawEvents.head?.any Inbound.isConnected ||
      acked (received s.log)
  | .dispatch => acked (received s.log)
  | .deliver ev => !cfg.isOffer ev || !(received s.log).any Inbound.isConnected ||
      acked (received s.log)
  | _ => true

theorem received_append (xs ys : List Entry) : received (xs ++ ys) = received xs ++ received ys := by
  induction xs with
  | nil => rfl
  | cons x rest ih => cases x <;> simp [received, ih]

@[simp] theorem received_snoc_put (log : List Entry) (out : Outbound) :
    received (log ++ [.put out]) = received log := by
  simp [received_append, received]

@[simp] theorem received_snoc_received (log : List Entry) (ev : Inbound) :
    received (log ++ [.received ev]) = received log ++ [ev] := by
  simp [received_append, received]

/-- What has been received stays received. -/
theorem acked_append {xs : List Inbound} (h : acked xs = true) (ys : List Inbound) :
    acked (xs ++ ys) = true := by
  induction xs with
  | nil => simp [acked] at h
  | cons x rest ih =>
    cases x with
    | connected sid =>
      simp only [acked, List.cons_append, List.any_append, Bool.or_eq_true] at h ⊢
      exact .inl h
    | _ => simpa [acked] using ih h

/-- An ACK behind a CONNECT reply counts. -/
theorem acked_of_connected {xs : List Inbound} (h : xs.any Inbound.isConnected = true) {ev : Inbound}
    (hev : isAuthAck ev = true) (ys : List Inbound) : acked (xs ++ ev :: ys) = true := by
  induction xs with
  | nil => cases h
  | cons x rest ih =>
    cases x with
    | connected sid => simp [acked, hev]
    | _ => exact ih h

/-! ## The gate is kept -/

/-- The translator has been spawned and not yet stopped. -/
def TranslatorPc.running : TranslatorPc → Bool
  | .notSpawned | .stopped => false
  | _ => true

/-- The translator is beyond its own gate, or hands an offer to the driver. -/
def TranslatorPc.needsAck : TranslatorPc → Bool
  | .sendingTriggers _ | .forwarding (.offer _) => true
  | _ => false

/-- `TransientSignaler::send` has the connection and events to put. -/
def CallerPc.needsAck : CallerPc → Bool
  | .subscribing | .pausing | .commanding => true
  | _ => false

namespace Connection

/-- What keeps the gate: whoever may put a gated event, and whoever holds an offer, has the ACK behind
it. -/
structure Inv (cfg : Config) (s : Connection) : Prop where
  gated : Gated s.log
  /-- The events still to be taken are the last ones received. A translator runs behind the CONNECT
  reply. -/
  split : ∃ taken, received s.log = taken ++ s.rawEvents ∧
    (s.translator.running = true → taken.any Inbound.isConnected = true)
  offers : Transition.OnLog (fun pre ev => cfg.isOffer ev = true →
    pre.any Inbound.isConnected = true → acked pre = true) (received s.log)
  translator : s.translator.needsAck = true → acked (received s.log) = true
  caller : s.caller.needsAck = true → acked (received s.log) = true
  events : ∀ mid, .offer mid ∈ s.events → acked (received s.log) = true
  driver : s.driver.Quiet ∨ acked (received s.log) = true
  dispatching : 0 < s.dispatching → acked (received s.log) = true

namespace Inv

variable {cfg : Config} {s : Connection}

theorem new : Connection.new.Inv cfg where
  gated := .nil
  split := ⟨[], rfl, fun hrun => by cases hrun⟩
  offers := .nil
  translator := fun hneeds => by cases hneeds
  caller := fun hneeds => by cases hneeds
  events := fun mid hmem => by cases hmem
  driver := .inl .new
  dispatching := fun hpos => absurd hpos (Nat.lt_irrefl 0)

/-- Only the log, the channels of the events and the positions of the tasks matter. -/
theorem frame (h : s.Inv cfg) {s' : Connection} (hlog : s'.log = s.log)
    (hraw : s'.rawEvents = s.rawEvents) (htranslator : s'.translator = s.translator)
    (hcaller : s'.caller = s.caller) (hevents : ∀ ev ∈ s'.events, ev ∈ s.events)
    (hdriver : s'.driver = s.driver) (hdispatching : s'.dispatching ≤ s.dispatching) : s'.Inv cfg where
  gated := by rw [hlog]; exact h.gated
  split := by rw [hlog, hraw, htranslator]; exact h.split
  offers := by rw [hlog]; exact h.offers
  translator := by rw [hlog, htranslator]; exact h.translator
  caller := by rw [hlog, hcaller]; exact h.caller
  events := by rw [hlog]; exact fun mid hmem => h.events mid (hevents _ hmem)
  driver := by rw [hlog, hdriver]; exact h.driver
  dispatching := by rw [hlog]; exact fun hpos => h.dispatching (Nat.lt_of_lt_of_le hpos hdispatching)

theorem put (h : s.Inv cfg) {out : Outbound}
    (hout : out.isGated = true → acked (received s.log) = true) : (s.put out).Inv cfg := by
  have hreceived : received (s.put out).log = received s.log := received_snoc_put s.log out
  refine ⟨?_, ?_, ?_, ?_, ?_, ?_, ?_, ?_⟩
  · exact h.gated.snoc fun o ho hg => hout (by cases ho; exact hg)
  all_goals rw [hreceived]
  · exact h.split
  · exact h.offers
  · exact h.translator
  · exact h.caller
  · exact h.events
  · exact h.driver
  · exact h.dispatching

/-- A send that returns leaves the tasks and what has been received as they are. -/
theorem send {out : Outbound} {s' : Connection} (h : s.Inv cfg)
    (hout : out.isGated = true → acked (received s.log) = true) (hs : s.send out = some s') :
    s'.Inv cfg ∧ received s'.log = received s.log ∧ s'.translator = s.translator := by
  unfold Connection.send at hs
  by_cases hclosed : s.outboundClosed = true
  · rw [if_pos hclosed, Option.some.injEq] at hs
    exact hs ▸ ⟨h, rfl, rfl⟩
  · rw [if_neg hclosed] at hs
    by_cases hroom : s.outbound.length < 64
    · rw [if_pos hroom, Option.some.injEq] at hs
      subst hs
      exact ⟨h.put hout, received_snoc_put s.log out, rfl⟩
    · rw [if_neg hroom] at hs
      cases hs

theorem setTranslator (h : s.Inv cfg) {t : TranslatorPc}
    (hrun : t.running = true → s.translator.running = true)
    (ht : t.needsAck = true → acked (received s.log) = true) :
    Connection.Inv cfg { s with translator := t } := by
  obtain ⟨taken, htaken, hconn⟩ := h.split
  exact { h with split := ⟨taken, htaken, fun hr => hconn (hrun hr)⟩, translator := ht }

theorem setCaller (h : s.Inv cfg) {c : CallerPc}
    (hc : c.needsAck = true → acked (received s.log) = true) :
    Connection.Inv cfg { s with caller := c } := { h with caller := hc }

theorem drop (h : s.Inv cfg) : s.drop.Inv cfg :=
  (h.setTranslator (t := .stopped) (fun hrun => by cases hrun) fun hneeds => by cases hneeds).setCaller
    (c := .done) fun hneeds => by cases hneeds

/-- Taking the next event, which leaves the translator where it is. -/
theorem take (h : s.Inv cfg) {ev : Inbound} {rest : List Inbound} (hraw : s.rawEvents = ev :: rest) :
    Connection.Inv cfg { s with rawEvents := rest } := by
  obtain ⟨taken, htaken, hconn⟩ := h.split
  refine { h with split := ⟨taken ++ [ev], ?_, fun hrun => ?_⟩ }
  · rw [htaken, hraw, List.append_assoc]
    rfl
  · rw [List.any_append, hconn hrun, Bool.true_or]

/-- What the translator takes has been received behind the CONNECT reply: an ACK counts, and an offer has
the ACK before it. -/
theorem acked_of_taken (h : s.Inv cfg) (hrun : s.translator.running = true) {ev : Inbound}
    {rest : List Inbound} (hraw : s.rawEvents = ev :: rest)
    (hev : isAuthAck ev = true ∨ cfg.isOffer ev = true) : acked (received s.log) = true := by
  obtain ⟨taken, htaken, hconn⟩ := h.split
  rw [hraw] at htaken
  rcases hev with hack | hoffer
  · rw [htaken]
    exact acked_of_connected (hconn hrun) hack rest
  · have hbefore := h.offers taken ev rest htaken hoffer (hconn hrun)
    rw [htaken]
    exact acked_append hbefore _

theorem takeEvent (h : s.Inv cfg) (hrun : s.translator.running = true) {ev : Inbound}
    (hacked : isAuthAck ev = true ∨ cfg.isOffer ev = true → acked (received s.log) = true) :
    (s.takeEvent cfg ev).Inv cfg := by
  have hset : ∀ {t : TranslatorPc}, (t.needsAck = true → acked (received s.log) = true) →
      Connection.Inv cfg { s with translator := t } := fun ht => h.setTranslator (fun _ => hrun) ht
  cases ev with
  | binaryEvent name payload =>
    refine hset fun hneeds => hacked (.inr ?_)
    cases hoffer : cfg.translateBinary name payload with
    | offer mid => simp [Config.isOffer, hoffer]
    | _ => rw [hoffer] at hneeds; cases hneeds
  | ack id payload =>
    unfold Connection.takeEvent
    simp only
    by_cases hfirst : s.authAcked = false ∧ id = 0
    · rw [if_pos hfirst]
      by_cases hsuccess : isAuthAck (.ack id payload) = true
      · rw [if_pos hsuccess]
        have hnext := hset (t := .sendingTriggers [(1, 0), (0, 1)]) fun _ => hacked (.inl hsuccess)
        exact hnext.frame rfl rfl rfl rfl (fun _ hmem => hmem) rfl (Nat.le_refl _)
      · rw [if_neg hsuccess]
        exact hset fun hneeds => by cases hneeds
    · rw [if_neg hfirst]
      exact h
  | transportClosed reason => exact hset fun hneeds => by cases hneeds
  | disconnected => exact hset fun hneeds => by cases hneeds
  | connected sid => exact h

/-- The translator sends an event and goes on as `t`. -/
theorem translatorSend (h : s.Inv cfg) (hrun : s.translator.running = true) {out : Outbound}
    {t : TranslatorPc} {s' : Connection}
    (hout : out.isGated = true → acked (received s.log) = true)
    (ht : t.needsAck = true → acked (received s.log) = true)
    (hs : (s.send out).map (fun s => { s with translator := t }) = some s') : s'.Inv cfg := by
  obtain ⟨s₁, hsend, rfl⟩ := Option.map_eq_some_iff.mp hs
  obtain ⟨hinv, hreceived, htranslator⟩ := h.send hout hsend
  refine hinv.setTranslator (fun _ => by rw [htranslator]; exact hrun) fun hneeds => ?_
  rw [hreceived]
  exact ht hneeds

/-- The translator hands an event to the driver. -/
theorem hand (h : s.Inv cfg) {ev : WebRtc.SignalingEvent} {t : TranslatorPc}
    (hrun : t.running = true → s.translator.running = true) (ht : t.needsAck = false)
    (hev : ∀ mid, ev = .offer mid → acked (received s.log) = true) :
    Connection.Inv cfg { s with events := s.events ++ [ev], translator := t } := by
  have hnext := h.setTranslator hrun fun hneeds => absurd hneeds (by simp [ht])
  refine { hnext with events := fun mid hmem => ?_ }
  rcases List.mem_append.mp hmem with hold | hnew
  · exact h.events mid hold
  · exact hev mid (List.mem_singleton.mp hnew).symm

theorem translatorStep {s' : Connection} (h : s.Inv cfg) (hs : s.translatorStep cfg = some s') :
    s'.Inv cfg := by
  unfold Connection.translatorStep at hs
  cases ht : s.translator with
  | notSpawned | stopped => simp [ht] at hs
  | sendingAuth =>
    rw [ht] at hs
    refine h.translatorSend (by rw [ht]; rfl) ?_ (fun hneeds => by cases hneeds) hs
    intro hgated
    exact absurd hgated (by simp [Outbound.isGated])
  | receiving =>
    have hrun : s.translator.running = true := by rw [ht]; rfl
    cases hraw : s.rawEvents with
    | nil => simp [ht, hraw] at hs
    | cons ev rest =>
      simp only [ht, hraw, Option.some.injEq] at hs
      rw [← hs, ← ht]
      exact (h.take hraw).takeEvent hrun fun hev => h.acked_of_taken hrun hraw hev
  | sendingTriggers left =>
    -- only the ACK leads here
    have hacked := h.translator (by rw [ht]; rfl)
    have hrun : s.translator.running = true := by rw [ht]; rfl
    rw [ht] at hs
    cases left with
    | nil => exact h.translatorSend hrun (fun _ => hacked) (fun _ => hacked) hs
    | cons fields left => exact h.translatorSend hrun (fun _ => hacked) (fun _ => hacked) hs
  | forwarding ev =>
    by_cases hroom : s.events.length < 64
    · simp only [ht, hroom, if_true, Option.some.injEq] at hs
      subst hs
      refine h.hand (fun _ => by rw [ht]; rfl) rfl ?_
      rintro mid rfl
      exact h.translator (by rw [ht]; rfl)
    · simp [ht, hroom] at hs
  | rejecting =>
    by_cases hroom : s.events.length < 64
    · simp only [ht, hroom, if_true, Option.some.injEq] at hs
      subst hs
      exact h.hand (fun hrun => by cases hrun) rfl fun mid hev => by cases hev
    · simp [ht, hroom] at hs

theorem callerSend (h : s.Inv cfg) {out : Outbound} {next : CallerPc} {s' : Connection}
    (hout : out.isGated = true → acked (received s.log) = true)
    (hnext : next.needsAck = true → acked (received s.log) = true)
    (hs : s.callerSend out next = some s') : s'.Inv cfg := by
  obtain ⟨s₁, hsend, rfl⟩ := Option.map_eq_some_iff.mp hs
  obtain ⟨hinv, hreceived, -⟩ := h.send hout hsend
  by_cases hclosed : s₁.outboundClosed = true
  · rw [if_pos hclosed]
    exact hinv.drop
  · rw [if_neg hclosed]
    refine hinv.setCaller fun hneeds => ?_
    rw [hreceived]
    exact hnext hneeds

theorem callerStep {s' : Connection} (h : s.Inv cfg) (hs : s.callerStep cfg = some s') :
    s'.Inv cfg := by
  unfold Connection.callerStep at hs
  split at hs
  · rename_i hcaller _
    have hacked := h.caller (by rw [hcaller]; rfl)
    exact h.callerSend (fun _ => hacked) (fun _ => hacked) hs
  · rename_i hcaller _
    cases hs
    exact h.setCaller fun _ => h.caller (by rw [hcaller]; rfl)
  · rename_i kind payload hcaller _
    have hacked := h.caller (by rw [hcaller]; rfl)
    by_cases hkind : kind = "configuration" ∨ kind = "trigger"
    · rw [if_pos hkind] at hs
      exact h.callerSend (fun _ => hacked) (fun hneeds => by cases hneeds) hs
    · rw [if_neg hkind, Option.some.injEq] at hs
      exact hs ▸ h.drop
  · cases hs
    exact h.drop
  · cases hs
    have hnext := h.setCaller (c := .driving) fun hneeds => by cases hneeds
    exact hnext.frame rfl rfl rfl rfl (fun _ hmem => hmem) rfl (Nat.le_refl _)
  · cases hs

/-- The driver has moved on. -/
theorem setDriver (h : s.Inv cfg) {d : WebRtc.Driver}
    (hd : d.Quiet ∨ acked (received s.log) = true) : Connection.Inv cfg { s with driver := d } :=
  { h with driver := hd }

/-- The driver takes an offer, or writes a signal, only behind the ACK. -/
theorem driverChannels {s' : Connection} {a : WebRtc.Action} (h : s.Inv cfg)
    (hs : s.driverChannels cfg a = some s') : s'.Inv cfg ∧ received s'.log = received s.log ∧
      ∀ mid, a = .event (.offer mid) → acked (received s.log) = true := by
  unfold Connection.driverChannels at hs
  split at hs
  · split at hs
    · cases hs
    · rename_i next rest hevents
      split at hs
      · rename_i heq
        cases hs
        have hsub : ∀ ev ∈ rest, ev ∈ s.events := fun ev hmem => by simp [hevents, hmem]
        refine ⟨h.frame rfl rfl rfl rfl hsub rfl (Nat.le_refl _), rfl, ?_⟩
        intro mid ha
        refine h.events mid ?_
        rw [hevents, heq, WebRtc.Action.event.inj ha]
        exact List.mem_cons_self
      · cases hs
  · split at hs
    · rename_i signal hpc
      -- a signal is written only after an offer was taken up
      have hacked : acked (received s.log) = true :=
        h.driver.resolve_left fun hquiet => hquiet.not_writing signal hpc
      split at hs
      · cases hs
      · obtain ⟨hinv, hreceived, -⟩ := h.send (fun _ => hacked) hs
        exact ⟨hinv, hreceived, fun _ _ => hacked⟩
    · cases hs
  · rename_i hne _
    cases hs
    exact ⟨h, rfl, fun mid ha => absurd ha (hne _)⟩

theorem driverStep {s' : Connection} {a : WebRtc.Action} (h : s.Inv cfg)
    (hs : s.driverStep cfg a = some s') : s'.Inv cfg := by
  unfold Connection.driverStep at hs
  by_cases hdriving : s.caller = .driving
  · rw [if_pos hdriving] at hs
    split at hs
    · rename_i d t hd ht
      obtain ⟨htinv, hreceived, hoffer⟩ := h.driverChannels ht
      have hdriver : d.Quiet ∨ acked (received t.log) = true := by
        rw [hreceived]
        rcases h.driver with hquiet | hacked
        · by_cases ha : ∃ mid, a = .event (.offer mid)
          · obtain ⟨mid, ha⟩ := ha
            exact .inr (hoffer mid ha)
          · exact .inl (hquiet.step (fun mid hm => ha ⟨mid, hm⟩) hd)
        · exact .inr hacked
      by_cases hstop : d.pc = .stopped
      · rw [if_pos hstop, Option.some.injEq] at hs
        exact hs ▸ htinv.drop.setDriver hdriver
      · rw [if_neg hstop, Option.some.injEq] at hs
        exact hs ▸ htinv.setDriver hdriver
    · cases hs
  · rw [if_neg hdriving] at hs
    cases hs

theorem reply {s' : Connection} (h : s.Inv cfg) (hok : s.comesAfterAck cfg .reply = true)
    (hs : s.step cfg .reply = some s') : s'.Inv cfg := by
  by_cases hwait : s.caller = .awaitingReply
  · simp only [Connection.step, if_pos hwait] at hs
    cases hraw : s.rawEvents with
    | nil => simp [hraw] at hs
    | cons ev rest =>
      cases ev with
      | connected sid =>
        obtain ⟨taken, htaken, -⟩ := h.split
        simp only [hraw, Option.some.injEq] at hs
        subst hs
        refine { h with split := ?_, translator := fun hneeds => ?_, caller := ?_ }
        · refine ⟨taken ++ [.connected sid], ?_, fun _ => ?_⟩
          · show received s.log = _
            rw [htaken, hraw, List.append_assoc]
            rfl
          · rw [List.any_append]
            exact Bool.or_true _
        · cases hneeds
        · -- the connection goes to its owner
          show (CallerPc.needsAck (match cfg.owner with
            | .transient _ _ => .subscribing
            | .session => .building)) = true → _
          cases howner : cfg.owner with
          | session => exact fun hneeds => by cases hneeds
          | transient kind payload =>
            intro _
            simpa [comesAfterAck, howner, Owner.isTransient, hraw, Inbound.isConnected] using hok
      | transportClosed reason =>
        simp only [hraw, Option.some.injEq] at hs
        have hnext := h.setCaller (c := .done) fun hneeds => by cases hneeds
        subst hs
        exact hnext.frame rfl hraw.symm rfl rfl (fun _ hmem => hmem) rfl (Nat.le_refl _)
      | _ =>
        simp only [hraw, Option.some.injEq] at hs
        exact hs ▸ h.take hraw
  · simp [Connection.step, hwait] at hs

/-- What comes from the server comes behind what has been received. -/
theorem deliver (h : s.Inv cfg) {ev : Inbound} (hok : s.comesAfterAck cfg (.deliver ev) = true) :
    Connection.Inv cfg
      { s with rawEvents := s.rawEvents ++ [ev], log := s.log ++ [.received ev] } := by
  have hreceived : received (s.log ++ [.received ev]) = received s.log ++ [ev] :=
    received_snoc_received s.log ev
  have hstays : acked (received s.log) = true → acked (received (s.log ++ [.received ev])) = true := by
    intro hacked
    rw [hreceived]
    exact acked_append hacked [ev]
  refine ⟨h.gated.snoc (by simp), ?_, ?_, fun ht => hstays (h.translator ht),
    fun hc => hstays (h.caller hc), fun mid hmem => hstays (h.events mid hmem), h.driver.imp id hstays,
    fun hpos => hstays (h.dispatching hpos)⟩
  · obtain ⟨taken, htaken, hconn⟩ := h.split
    refine ⟨taken, ?_, hconn⟩
    rw [hreceived, htaken, List.append_assoc]
  · rw [hreceived]
    refine h.offers.snoc fun hoffer hconn => ?_
    simpa [comesAfterAck, hoffer, hconn] using hok

theorem step {s' : Connection} {a : Step} (h : s.Inv cfg) (hok : s.comesAfterAck cfg a = true)
    (hs : s.step cfg a = some s') : s'.Inv cfg := by
  have hframe : ∀ {t : Connection}, t.log = s.log → t.rawEvents = s.rawEvents →
      t.translator = s.translator → t.caller = s.caller → t.events = s.events → t.driver = s.driver →
      t.dispatching = s.dispatching → t.Inv cfg := by
    intro t hlog hraw ht hc hevents hd hdispatching
    exact h.frame hlog hraw ht hc (fun ev hmem => hevents ▸ hmem) hd hdispatching.le
  cases a with
  | sendConnect =>
    by_cases hc : s.caller = .connecting
    · simp only [Connection.step, if_pos hc] at hs
      exact h.callerSend (fun hgated => by cases hgated) (fun hneeds => by cases hneeds) hs
    · simp [Connection.step, hc] at hs
  | deliver ev =>
    by_cases hd : s.caller ≠ .done ∧ s.outboundClosed = false ∧ s.rawEvents.length < 64
    · simp only [Connection.step, if_pos hd, Option.some.injEq] at hs
      exact hs ▸ h.deliver hok
    · simp [Connection.step, hd] at hs
  | reply => exact h.reply hok hs
  | translator => exact h.translatorStep hs
  | caller => exact h.callerStep hs
  | buildFails =>
    by_cases hb : s.caller = .building
    · simp only [Connection.step, if_pos hb, Option.some.injEq] at hs
      exact hs ▸ h.drop
    · simp [Connection.step, hb] at hs
  | driver a => exact h.driverStep hs
  | unregister =>
    cases hs
    exact hframe rfl rfl rfl rfl rfl rfl rfl
  | dispatch =>
    by_cases hr : s.registered = true
    · simp only [Connection.step, if_pos hr, Option.some.injEq] at hs
      subst hs
      exact { h with dispatching := fun _ => hok }
    · simp [Connection.step, hr] at hs
  | dispatcherSend kind payload =>
    by_cases hd : 0 < s.dispatching ∧ (kind = "configuration" ∨ kind = "trigger")
    · simp only [Connection.step, if_pos hd] at hs
      obtain ⟨s₁, hsend, rfl⟩ := Option.map_eq_some_iff.mp hs
      obtain ⟨hinv, -, -⟩ := h.send (fun _ => h.dispatching hd.1) hsend
      exact hinv.frame rfl rfl rfl rfl (fun _ hmem => hmem) rfl (Nat.sub_le _ _)
    · simp [Connection.step, hd] at hs
  | transmit =>
    have hinv : ∀ rest, Connection.Inv cfg { s with outbound := rest } :=
      fun _ => hframe rfl rfl rfl rfl rfl rfl rfl
    simp only [Connection.step] at hs
    split at hs
    · cases hs
    · split at hs
      · cases hs
      · exact Option.some.inj hs ▸ hinv _
  | transportEnds =>
    cases hs
    exact hframe rfl rfl rfl rfl rfl rfl rfl

end Inv

end Connection

/-- As long as the connection goes to `TransientSignaler::send`, a message to `live_outbound` and an
offer to the driver only behind the ACK, nothing but `client_authentication` is put on the outbound
channel before it, in whatever order the tasks run: the translator keeps the gate by itself. -/
theorem gated_of_comesAfterAck {cfg : Config} {s : Connection}
    (h : Transition.ReachableWhere (connectionSystem cfg) (fun s a => s.comesAfterAck cfg a = true) s) :
    Gated s.log := by
  have hinv : s.Inv cfg := h.induct .new fun _ _ _ _ hok hs hi => hi.step hok hs
  exact hinv.gated

/-! ## What happens before the ACK -/

theorem Connection.not_gated_put (s : Connection) (out : Outbound) (hout : out.isGated = true)
    (hack : acked (received s.log) = false) : ¬ Gated (s.put out).log := by
  intro h
  have hacked := h s.log (.put out) [] rfl out rfl hout
  rw [hack] at hacked
  cases hacked

/-- Whoever is given the sender before the ACK can put a gated event right away. -/
theorem Connection.exists_not_gated {cfg : Config} {s s' : Connection} {a : Step}
    (ha : a = .reply ∨ a = .dispatch) (hs : s.step cfg a = some s')
    (hearly : s.comesAfterAck cfg a = false) (hopen : s.outboundClosed = false)
    (hroom : s.outbound.length < 64) : ∃ b t, s'.step cfg b = some t ∧ ¬ Gated t.log := by
  have hsend : s'.outboundClosed = s.outboundClosed → s'.outbound = s.outbound →
      ∀ out, s'.send out = some (s'.put out) := by
    intro hclosed hout out
    rw [Connection.send, hclosed, hopen, hout, if_neg Bool.false_ne_true, if_pos hroom]
  rcases ha with rfl | rfl
  · simp only [comesAfterAck, Bool.or_eq_false_iff, Bool.not_eq_false'] at hearly
    obtain ⟨⟨htransient, hhead⟩, hack⟩ := hearly
    by_cases hwait : s.caller = .awaitingReply
    · cases hraw : s.rawEvents with
      | nil => simp [hraw] at hhead
      | cons ev rest =>
        cases ev with
        | connected sid =>
          cases howner : cfg.owner with
          | session => simp [howner, Owner.isTransient] at htransient
          | transient kind payload =>
            simp only [Connection.step, if_pos hwait, hraw, howner, Option.some.injEq] at hs
            obtain ⟨hcaller, hlog, hclosed, hout⟩ : s'.caller = .subscribing ∧ s'.log = s.log ∧
                s'.outboundClosed = s.outboundClosed ∧ s'.outbound = s.outbound := by
              rw [← hs]
              exact ⟨rfl, rfl, rfl, rfl⟩
            let trigger : Outbound := .binaryEvent "trigger" cfg.subscribeTrigger false
            refine ⟨.caller, { s'.put trigger with caller := .pausing }, ?_, ?_⟩
            · show s'.callerStep cfg = _
              rw [callerStep, hcaller, howner]
              show s'.callerSend trigger .pausing = _
              rw [callerSend, hsend hclosed hout]
              simp [Connection.put, hclosed, hopen]
            · exact s'.not_gated_put trigger rfl (by rw [hlog]; exact hack)
        | _ => simp [hraw, Inbound.isConnected] at hhead
    · simp [Connection.step, hwait] at hs
  · by_cases hregistered : s.registered = true
    · simp only [Connection.step, if_pos hregistered, Option.some.injEq] at hs
      subst hs
      refine ⟨.dispatcherSend "configuration" [], _, ?_,
        not_gated_put _ (.binaryEvent "configuration" [] false) rfl hearly⟩
      simp only [Connection.step]
      rw [if_pos ⟨Nat.succ_pos _, .inl trivial⟩, hsend rfl rfl]
      rfl
    · simp [Connection.step, hregistered] at hs

/-- A run whose last entry is a gated event, with no ACK before it. -/
theorem Connection.exists_path_not_gated {cfg : Config} {as : List Step} (pre : List Entry)
    (out : Outbound)
    (hlog : (Transition.run (connectionSystem cfg) .new as).map (·.log) = some (pre ++ [.put out]))
    (hout : out.isGated = true) (hack : acked (received pre) = false) :
    ∃ s, Transition.Path (connectionSystem cfg) .new as s ∧ ¬ Gated s.log := by
  obtain ⟨s, hs, hlog⟩ := Option.map_eq_some_iff.mp hlog
  refine ⟨s, Transition.pathWhere_of_runWhere (fun _ _ _ => trivial) (.nil _) hs, fun h => ?_⟩
  have hacked := h pre (.put out) [] hlog out rfl hout
  rw [hack] at hacked
  cases hacked

/-- A connection of `TransientSignaler::send` for a reboot command. -/
def rebootConfig : Config where
  owner := .transient "trigger" [1]
  connectAuth := .null
  clientAuthentication := []
  trigger _ _ := []
  kickoff _ := []
  subscribeTrigger := [3]
  translateBinary _ _ := .ignored
  webRtcSignal _ := []

/-- A connection of a session that takes every `webrtc` event for an offer. -/
def sessionConfig : Config where
  owner := .session
  connectAuth := .null
  clientAuthentication := []
  trigger _ _ := []
  kickoff _ := []
  subscribeTrigger := [3]
  translateBinary name _ := if name = "webrtc" then .offer "0" else .ignored
  webRtcSignal _ := []

/-- The driver answers an offer and writes the answer. -/
def answerOffer : List Step :=
  [.translator, .translator, .driver (.event (.offer "0")), .driver .remoteSet, .driver .answerCreated,
    .driver (.localSet "sdp"), .driver .recvOut, .driver (.written true)]

/-- A command and an offer behind the ACK: the triggers, the kick-off, the command and the answer go
out. -/
theorem gated_of_comesAfterAck_session :
    ∃ s, Transition.Reachable (connectionSystem sessionConfig) s ∧ s.outbound.length = 7 ∧
      Gated s.log := by
  obtain ⟨s, hr, hp⟩ := Transition.exists_reachableWhere_of_runWhere (connectionSystem sessionConfig)
    (Connection.comesAfterAck sessionConfig)
    ([.sendConnect, .deliver (.connected (some "sid")), .reply, .caller, .translator,
      .deliver (.ack 0 [.nat 0]), .deliver (.binaryEvent "webrtc" []), .dispatch, .translator,
      .dispatcherSend "configuration" [1], .translator, .translator, .translator] ++ answerOffer)
    (fun s => decide (s.outbound.length = 7)) (by decide)
  exact ⟨s, hr.reachable, of_decide_eq_true hp, gated_of_comesAfterAck hr⟩

/-- Before the ACK, `TransientSignaler::send` puts the subscribe trigger right after the CONNECT reply, a
message that arrives once the session is registered is put as a command, and an offer is answered. -/
theorem not_gated_early :
    (∃ s, Transition.Path (connectionSystem rebootConfig) .new
      [.sendConnect, .deliver (.connected (some "sid")), .reply, .caller] s ∧ ¬ Gated s.log) ∧
    (∃ s, Transition.Path (connectionSystem sessionConfig) .new
      [.sendConnect, .deliver (.connected (some "sid")), .reply, .caller, .dispatch,
        .dispatcherSend "configuration" [1]] s ∧ ¬ Gated s.log) ∧
    ∃ s, Transition.Path (connectionSystem sessionConfig) .new
      ([.sendConnect, .deliver (.connected (some "sid")), .reply, .caller, .translator,
        .deliver (.binaryEvent "webrtc" [])] ++ answerOffer) s ∧ ¬ Gated s.log := by
  let replied : List Entry := [.put (.connect .null), .received (.connected (some "sid"))]
  let offered : List Entry := replied ++
    [.put (.binaryEvent "client_authentication" [] true), .received (.binaryEvent "webrtc" [])]
  refine ⟨?_, ?_, ?_⟩
  · exact Connection.exists_path_not_gated replied (.binaryEvent "trigger" [3] false) rfl rfl rfl
  · exact Connection.exists_path_not_gated replied (.binaryEvent "configuration" [1] false) rfl rfl rfl
  · exact Connection.exists_path_not_gated offered (.binaryEvent "webrtc" [] false) rfl rfl rfl

end Buddy3dProxy.Signaling
