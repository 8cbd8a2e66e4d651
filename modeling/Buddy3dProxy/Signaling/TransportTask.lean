import Buddy3dProxy.Signaling.Handshake
import Buddy3dProxy.Transition.System

/-!
# The transport task

The task that `connect` (`prusa/signaling/client.rs`) spawns, between the WebSocket and its two channels:
in every round it takes a message of the server, an event to send, or the tick of the watchdog. Times
are milliseconds.
-/

namespace Buddy3dProxy.Signaling

open SocketIo (Json Serde Correlator)
open Transition

/-- What `stream.next` gives. -/
inductive Received where
  | frame (f : Frame)
  | close
  /-- A WebSocket message of another kind. -/
  | other
  | error (e : String)
  | end

/-- What the task has taken. -/
inductive Taken where
  | received (m : Received)
  | outbound (out : Outbound)

/-- Where the task stands. -/
inductive TransportPc where
  | selecting
  /-- In `sink.send` of the answer to a ping. -/
  | ponging
  /-- In `sink.send` of the frames of an event. -/
  | writing (left : List Frame)
  /-- Waiting for a slot in `inbound_tx.send`, in the last round of the loop or not. -/
  | handing (last : Bool)
  | stopped
  deriving DecidableEq, Repr

structure Transport where
  now : Nat
  pc : TransportPc
  correlator : Correlator
  nextAckId : UInt64
  /-- The next tick of `ping_timer`. -/
  deadline : Nat
  outbound : Tokio.Mpsc 64 Outbound
  /-- There are senders of events. -/
  senders : Bool
  inbound : Tokio.Mpsc 64 Inbound
  /-- The receiver of the server's events is there. -/
  receiver : Bool
  /-- What it has taken, the time of the last frame or of the start, what it has handed on, the frames
  it has written, what the receiver got and what was submitted: each oldest first. -/
  taken : List Taken
  heard : Nat
  handed : List Inbound
  written : List Frame
  got : List Inbound
  submitted : List Outbound

inductive TransportStep where
  | tick (d : Nat)
  | receive (m : Received)
  | recvOut
  /-- `sink.send` returns. -/
  | sent (ok : Bool)
  /-- The tick of the watchdog is taken. -/
  | timeout
  | submit (out : Outbound)
  /-- The last sender of events is dropped. -/
  | dropSenders
  | consume
  | dropReceiver
  /-- `inbound_tx.closed` is taken. -/
  | closed

namespace Transport

section Model

variable (openFromStr : String → Except String EngineIo.OpenPayload) (serde : Serde) (pingInterval : UInt64)

/-- The watchdog's period, in `u64` milliseconds and then as a duration. -/
def period : Nat := pingInterval.toNat + 5000

def new : Transport where
  now := 0
  pc := .selecting
  correlator := .new
  nextAckId := 0
  deadline := period pingInterval
  outbound := .channel
  senders := true
  inbound := .channel
  receiver := true
  taken := []
  heard := 0
  handed := []
  written := []
  got := []
  submitted := []

/-- Where the task is once an event is handed on. -/
def after (last : Bool) : TransportPc := if last then .stopped else .selecting

/-- A send that waits for a slot returns. -/
def resume : TransportPc → TransportPc
  | .handing last => after last
  | pc => pc

/-- `inbound_tx.send`; without a receiver it returns at once. -/
def hand (s : Transport) (ev : Inbound) (last : Bool) : Transport :=
  if s.receiver then
    { s with
      pc := if s.inbound.hasRoom then after last else .handing last
      inbound := s.inbound.send ev
      handed := s.handed ++ [ev] }
  else { s with pc := after last, handed := s.handed ++ [ev] }

/-- The loop ends with this event. -/
def close (s : Transport) (reason : String) : Transport := s.hand (.transportClosed reason) true

/-- A packet or an attachment is fed to the correlator; errors are only logged. -/
def correlate (s : Transport) (f : Fed) : Transport :=
  let s' := { s with correlator := afterFrame serde s.correlator f }
  match (delivered serde s.correlator f).bind inbound? with
  | some ev => s'.hand ev false
  | none => s'

def receive (s : Transport) : Received → Transport
  | .frame f =>
    let s := { s with heard := s.now, deadline := s.now + period pingInterval }
    match f with
    | .text t =>
      match EngineIo.parseText openFromStr t with
      | .ok .ping => { s with pc := .ponging }
      | .ok (.message payload) => s.correlate serde (.text payload)
      | .ok _ => s
      | .error _ => s
    | .binary b => s.correlate serde (.binary b)
  | .close => s.close "close frame"
  | .other => s
  | .error e => s.close e
  | .end => s.close "stream end"

def step (s : Transport) : TransportStep → Option Transport
  | .tick d =>
    if s.pc = .selecting ∧ s.deadline < s.now + d then none else some { s with now := s.now + d }
  | .receive m =>
    if s.pc = .selecting then
      some (receive openFromStr serde pingInterval { s with taken := s.taken ++ [.received m] } m)
    else none
  | .recvOut =>
    if s.pc = .selecting then
      match s.outbound.recv with
      | some (out, rest) =>
        some { s with
          pc := .writing (encodeOutbound serde s.nextAckId out).1
          nextAckId := (encodeOutbound serde s.nextAckId out).2
          outbound := rest
          taken := s.taken ++ [.outbound out] }
      | none => if s.senders then none else some { s with pc := .stopped }
    else none
  | .sent ok =>
    match s.pc with
    | .ponging =>
      if ok then some { s with pc := .selecting, written := s.written ++ [.text EngineIo.encodePong] }
      else some (s.close "write ping reply failed")
    | .writing (f :: left) =>
      if ok then
        some { s with pc := if left = [] then .selecting else .writing left, written := s.written ++ [f] }
      else some (s.close "write failed")
    | _ => none
  | .timeout =>
    if s.pc = .selecting ∧ s.deadline ≤ s.now then some (s.close "server ping timeout") else none
  | .submit out =>
    if s.senders ∧ s.pc ≠ .stopped then
      some { s with outbound := s.outbound.send out, submitted := s.submitted ++ [out] }
    else none
  | .dropSenders => some { s with senders := false }
  | .consume =>
    if s.receiver then
      s.inbound.recv.map fun (ev, rest) =>
        { s with inbound := rest, got := s.got ++ [ev], pc := resume s.pc }
    else none
  | .dropReceiver =>
    some { s with receiver := false, inbound := .channel, pc := resume s.pc }
  | .closed => if s.receiver then none else some { s with pc := .stopped }

end Model

end Transport

/-- The runs of the task. -/
def transportSystem (openFromStr : String → Except String EngineIo.OpenPayload) (serde : Serde)
    (pingInterval : UInt64) : System Transport TransportStep :=
  ⟨.new pingInterval, Transport.step openFromStr serde pingInterval⟩

/-! ## What was taken -/

/-- The server's frames among what was taken. -/
def frames (taken : List Taken) : List Frame :=
  taken.filterMap fun
    | .received (.frame f) => some f
    | _ => none

/-- The events to send among what was taken. -/
def outs (taken : List Taken) : List Outbound :=
  taken.filterMap fun
    | .outbound out => some out
    | _ => none

section Wire

variable (openFromStr : String → Except String EngineIo.OpenPayload) (serde : Serde)

/-- What is to be written for one thing taken, and the next ack id. -/
def reply (nextAckId : UInt64) : Taken → List Frame × UInt64
  | .received (.frame (.text t)) =>
    match EngineIo.parseText openFromStr t with
    | .ok .ping => ([.text EngineIo.encodePong], nextAckId)
    | _ => ([], nextAckId)
  | .received _ => ([], nextAckId)
  | .outbound out => encodeOutbound serde nextAckId out

/-- What is to be written for all that was taken, one after the other. -/
def wire (nextAckId : UInt64) : List Taken → List Frame
  | [] => []
  | x :: rest => (reply openFromStr serde nextAckId x).1 ++ wire (reply openFromStr serde nextAckId x).2 rest

/-- The next ack id after all that was taken. -/
def ackIdAfter (nextAckId : UInt64) : List Taken → UInt64
  | [] => nextAckId
  | x :: rest => ackIdAfter (reply openFromStr serde nextAckId x).2 rest

end Wire

section Lemmas

variable {openFromStr : String → Except String EngineIo.OpenPayload} {serde : Serde}

theorem wire_snoc (nextAckId : UInt64) (taken : List Taken) (x : Taken) :
    wire openFromStr serde nextAckId (taken ++ [x]) = wire openFromStr serde nextAckId taken ++
      (reply openFromStr serde (ackIdAfter openFromStr serde nextAckId taken) x).1 := by
  induction taken generalizing nextAckId with
  | nil => simp [wire, ackIdAfter]
  | cons y taken ih => simp [wire, ackIdAfter, ih]

theorem ackIdAfter_snoc (nextAckId : UInt64) (taken : List Taken) (x : Taken) :
    ackIdAfter openFromStr serde nextAckId (taken ++ [x]) =
      (reply openFromStr serde (ackIdAfter openFromStr serde nextAckId taken) x).2 := by
  induction taken generalizing nextAckId with
  | nil => rfl
  | cons y taken ih => simp [ackIdAfter, ih]

theorem encodeOutbound_control (serde : Serde) (nextAckId : UInt64) (out : Outbound) :
    ∀ f ∈ (encodeOutbound serde nextAckId out).1, f.isControl = false := by
  cases out <;> simp [encodeOutbound, Frame.isControl]

theorem reply_received (openFromStr : String → Except String EngineIo.OpenPayload) (serde : Serde)
    (nextAckId : UInt64) (m : Received) :
    (reply openFromStr serde nextAckId (.received m)).2 = nextAckId ∧
      ∀ f ∈ (reply openFromStr serde nextAckId (.received m)).1, f.isControl = true := by
  cases m with
  | frame f =>
    cases f with
    | text t =>
      unfold reply
      split
      · rename_i heq
        cases heq
        split <;> simp [Frame.isControl]
      · rename_i heq
        cases heq
        simp_all
      · rename_i heq
        cases heq
    | binary b => simp [reply]
  | _ => simp [reply]

/-- Apart from the answers to pings, the wire carries the events that were taken. -/
theorem filter_wire (nextAckId : UInt64) (taken : List Taken) :
    (wire openFromStr serde nextAckId taken).filter (!·.isControl) =
      encodeAll serde nextAckId (outs taken) := by
  induction taken generalizing nextAckId with
  | nil => rfl
  | cons x taken ih =>
    rw [wire, List.filter_append, ih]
    cases x with
    | outbound out =>
      have hall := encodeOutbound_control serde nextAckId out
      have hkeep : (encodeOutbound serde nextAckId out).1.filter (!·.isControl) =
          (encodeOutbound serde nextAckId out).1 :=
        List.filter_eq_self.mpr fun f hf => by simp [hall f hf]
      simp only [reply, hkeep]
      rfl
    | received m =>
      obtain ⟨hid, hcontrol⟩ := reply_received openFromStr serde nextAckId m
      have hdrop : (reply openFromStr serde nextAckId (.received m)).1.filter (!·.isControl) = [] :=
        List.filter_eq_nil_iff.mpr fun f hf => by simp [hcontrol f hf]
      rw [hid, hdrop]
      rfl

theorem frames_snoc (taken : List Taken) (x : Taken) : frames (taken ++ [x]) = frames taken ++ frames [x] :=
  List.filterMap_append

theorem readAll_append (fs gs : List Frame) :
    Reader.readAll openFromStr serde (fs ++ gs) =
      gs.foldl (Reader.read openFromStr serde) (Reader.readAll openFromStr serde fs) :=
  List.foldl_append

end Lemmas

/-! ## What a step does -/

/-- What is still to be written for what was taken, as long as the task goes on. -/
def TransportPc.owed : TransportPc → Option (List Frame)
  | selecting | handing false => some []
  | ponging => some [.text EngineIo.encodePong]
  | writing left => some left
  | handing true | stopped => none

/-- The loop has ended. -/
def TransportPc.over : TransportPc → Bool
  | handing true | stopped => true
  | _ => false

namespace Transport

variable {openFromStr : String → Except String EngineIo.OpenPayload} {serde : Serde} {pingInterval : UInt64}
  {s s' : Transport}

theorem hand_eq (s : Transport) (ev : Inbound) (last : Bool) : ∃ pc inbound,
    s.hand ev last = { s with pc, inbound, handed := s.handed ++ [ev] } ∧
      (pc = after last ∨ pc = .handing last) ∧
      (s.receiver = true → inbound.queue ++ inbound.waiting =
        s.inbound.queue ++ s.inbound.waiting ++ [ev]) := by
  unfold hand
  by_cases hreceiver : s.receiver = true
  · rw [if_pos hreceiver]
    refine ⟨_, _, rfl, ?_, fun _ => s.inbound.pending_send ev⟩
    by_cases hroom : s.inbound.hasRoom = true <;> simp [hroom]
  · rw [if_neg hreceiver]
    exact ⟨_, s.inbound, rfl, .inl rfl, fun h => absurd h hreceiver⟩

/-- What is handed on is handed on whole, and nothing is owed for it. -/
theorem correlate_eq (serde : Serde) (hpc : s.pc = .selecting) (f : Fed) : ∃ pc inbound,
    s.correlate serde f =
      { s with
        correlator := afterFrame serde s.correlator f
        pc
        inbound
        handed := s.handed ++ ((delivered serde s.correlator f).bind inbound?).toList } ∧
      pc.owed = some [] ∧ pc.over = false ∧
      (s.receiver = true → inbound.queue ++ inbound.waiting = s.inbound.queue ++ s.inbound.waiting ++
        ((delivered serde s.correlator f).bind inbound?).toList) := by
  unfold correlate
  cases (delivered serde s.correlator f).bind inbound? with
  | none =>
    refine ⟨s.pc, s.inbound, by simp, ?_, ?_, by simp⟩
    · rw [hpc]; rfl
    · rw [hpc]; rfl
  | some ev =>
    obtain ⟨pc, inbound, heq, hlast, hinbound⟩ :=
      hand_eq { s with correlator := afterFrame serde s.correlator f } ev false
    refine ⟨pc, inbound, heq, ?_, ?_, hinbound⟩
    · rcases hlast with rfl | rfl <;> rfl
    · rcases hlast with rfl | rfl <;> rfl

/-- From `s` to `s'` the task has read a frame as the reader `r` does, and owes the answer. -/
def ReadsFrame (openFromStr : String → Except String EngineIo.OpenPayload) (serde : Serde)
    (pingInterval : UInt64) (r : Reader) (f : Frame) (s s' : Transport) : Prop :=
  ∃ pc inbound new,
    s' = { s with
      heard := s.now
      deadline := s.now + period pingInterval
      correlator := (r.read openFromStr serde f).correlator
      pc
      inbound
      handed := s.handed ++ new } ∧
    (r.read openFromStr serde f).inbound = r.inbound ++ new ∧
    (∀ ev ∈ new, ∀ reason, ev ≠ .transportClosed reason) ∧
    (∀ id, pc.owed = some (reply openFromStr serde id (.received (.frame f))).1) ∧ pc.over = false ∧
    (s.receiver = true → inbound.queue ++ inbound.waiting = s.inbound.queue ++ s.inbound.waiting ++ new)

variable {r : Reader} {f : Frame}

theorem readsFrame_correlate (hpc : s.pc = .selecting) (hr : r.correlator = s.correlator) {fed : Fed}
    (hreply : ∀ id, (reply openFromStr serde id (.received (.frame f))).1 = [])
    (hread : r.read openFromStr serde f = r.correlate serde fed) :
    ReadsFrame openFromStr serde pingInterval r f s
      ({ s with heard := s.now, deadline := s.now + period pingInterval }.correlate serde fed) := by
  obtain ⟨pc, inbound, heq, howed, hover, hinbound⟩ := correlate_eq serde
    (s := { s with heard := s.now, deadline := s.now + period pingInterval }) hpc fed
  refine ⟨pc, inbound, _, heq.trans ?_, ?_, ?_, ?_, hover, hinbound⟩
  · rw [hread, Reader.correlate, hr]
  · rw [hread, Reader.correlate, hr]
  · intro ev hev reason
    obtain ⟨event, -, hevent⟩ := Option.bind_eq_some_iff.mp (Option.mem_toList.mp hev)
    cases event <;> cases hevent <;> simp
  · intro id
    rw [hreply id, howed]

/-- A frame that is no packet for the correlator. -/
theorem readsFrame_plain (hr : r.correlator = s.correlator) {pc : TransportPc}
    (hread : (r.read openFromStr serde f).correlator = r.correlator ∧
      (r.read openFromStr serde f).inbound = r.inbound)
    (howed : ∀ id, pc.owed = some (reply openFromStr serde id (.received (.frame f))).1)
    (hover : pc.over = false) :
    ReadsFrame openFromStr serde pingInterval r f s
      { s with heard := s.now, deadline := s.now + period pingInterval, pc } := by
  refine ⟨pc, s.inbound, [], ?_, ?_, by simp, howed, hover, by simp⟩
  · rw [hread.1, hr, List.append_nil]
  · rw [hread.2, List.append_nil]

theorem receive_frame (hpc : s.pc = .selecting) (f : Frame) (hr : r.correlator = s.correlator) :
    ReadsFrame openFromStr serde pingInterval r f s
      (s.receive openFromStr serde pingInterval (.frame f)) := by
  cases f with
  | binary b => exact readsFrame_correlate hpc hr (fun _ => rfl) rfl
  | text t =>
    have hplain : ∀ pc : TransportPc,
        ((r.read openFromStr serde (.text t)).correlator = r.correlator ∧
          (r.read openFromStr serde (.text t)).inbound = r.inbound) →
        (∀ id, pc.owed = some (reply openFromStr serde id (.received (.frame (.text t)))).1) →
        pc.over = false → ReadsFrame openFromStr serde pingInterval r (.text t) s
          { s with heard := s.now, deadline := s.now + period pingInterval, pc } :=
      fun _ hread howed hover => readsFrame_plain hr hread howed hover
    have hnothing : s.pc.owed = some [] ∧ s.pc.over = false := by rw [hpc]; exact ⟨rfl, rfl⟩
    cases hparse : EngineIo.parseText openFromStr t with
    | error e =>
      simp only [receive, hparse]
      exact hplain s.pc (by simp [Reader.read, hparse]) (by simp [reply, hparse, hnothing.1]) hnothing.2
    | ok packet =>
      cases packet with
      | ping =>
        simp only [receive, hparse]
        exact hplain .ponging (by simp [Reader.read, hparse])
          (by simp [reply, hparse, TransportPc.owed]) rfl
      | message payload =>
        simp only [receive, hparse]
        exact readsFrame_correlate hpc hr (by simp [reply, hparse]) (by simp [Reader.read, hparse])
      | _ =>
        simp only [receive, hparse]
        exact hplain s.pc (by simp [Reader.read, hparse]) (by simp [reply, hparse, hnothing.1]) hnothing.2

/-! ## The invariant -/

/-- What the task has written, handed on and left to do is what follows from what it has taken, in the
order in which it took it. -/
structure Inv (openFromStr : String → Except String EngineIo.OpenPayload) (serde : Serde)
    (pingInterval : UInt64) (s : Transport) : Prop where
  id : s.nextAckId = ackIdAfter openFromStr serde 0 s.taken
  written : s.written <+: wire openFromStr serde 0 s.taken
  owed : ∀ left, s.pc.owed = some left → s.written ++ left = wire openFromStr serde 0 s.taken
  taken : outs s.taken <+: s.submitted
  queue : s.pc ≠ .stopped → s.submitted = outs s.taken ++ (s.outbound.queue ++ s.outbound.waiting)
  correlator : (Reader.readAll openFromStr serde (frames s.taken)).correlator = s.correlator
  handed : ∃ closing, s.handed = (Reader.readAll openFromStr serde (frames s.taken)).inbound ++ closing ∧
    (closing = [] ∨ s.pc.over = true ∧ ∃ reason, closing = [.transportClosed reason])
  got : s.got <+: s.handed
  inbound : s.receiver = true → s.got ++ (s.inbound.queue ++ s.inbound.waiting) = s.handed
  deadline : s.deadline = s.heard + period pingInterval
  heard : s.heard ≤ s.now
  silent : .transportClosed "server ping timeout" ∈ s.handed →
    .received (.error "server ping timeout") ∈ s.taken ∨
      s.pc.over = true ∧ s.heard + period pingInterval ≤ s.now

theorem Inv.new : (Transport.new pingInterval).Inv openFromStr serde pingInterval where
  id := rfl
  written := List.prefix_refl _
  owed := by simp [Transport.new, TransportPc.owed, wire]
  taken := List.prefix_refl _
  queue := by simp [Transport.new, outs, Tokio.Mpsc.channel]
  correlator := rfl
  handed := ⟨[], rfl, .inl rfl⟩
  got := List.prefix_refl _
  inbound := by simp [Transport.new, Tokio.Mpsc.channel]
  deadline := by simp [Transport.new]
  heard := Nat.le_refl _
  silent := by simp [Transport.new]

/-- The handed-on events are those of the reader until the loop is over. -/
theorem Inv.handed_eq (h : s.Inv openFromStr serde pingInterval) (hover : s.pc.over = false) :
    s.handed = (Reader.readAll openFromStr serde (frames s.taken)).inbound := by
  obtain ⟨closing, heq, rfl | ⟨hover', -⟩⟩ := h.handed
  · rw [heq, List.append_nil]
  · rw [hover] at hover'
    cases hover'

theorem Inv.close (h : s.Inv openFromStr serde pingInterval) (hover : s.pc.over = false) {reason : String}
    (hreason : reason = "server ping timeout" → .received (.error "server ping timeout") ∈ s.taken ∨
      s.heard + period pingInterval ≤ s.now) :
    (s.close reason).Inv openFromStr serde pingInterval := by
  obtain ⟨pc, inbound, heq, hpc, hinbound⟩ := hand_eq s (.transportClosed reason) true
  have hend : pc.owed = none ∧ pc.over = true := by
    rcases hpc with rfl | rfl <;> exact ⟨rfl, rfl⟩
  have hstopped : s.pc ≠ .stopped := by
    intro hpc
    rw [hpc] at hover
    cases hover
  rw [Transport.close, heq]
  exact { h with
    owed := by simp [hend.1]
    queue := fun _ => h.queue hstopped
    handed := ⟨[.transportClosed reason], by rw [h.handed_eq hover], .inr ⟨hend.2, reason, rfl⟩⟩
    got := h.got.trans (List.prefix_append _ _)
    inbound := fun hreceiver => by
      rw [hinbound hreceiver, ← List.append_assoc, ← List.append_assoc]
      congr 1
      rw [← h.inbound hreceiver, List.append_assoc]
    silent := fun hmem => by
      rcases List.mem_append.mp hmem with hmem | hmem
      · rcases h.silent hmem with herror | ⟨hover', -⟩
        · exact .inl herror
        · rw [hover] at hover'
          cases hover'
      · have hsame := Inbound.transportClosed.inj (List.mem_singleton.mp hmem)
        exact (hreason hsame.symm).imp_right fun hle => ⟨hend.2, hle⟩ }

/-- A message that is no frame is only taken note of. -/
theorem Inv.takeOther (h : s.Inv openFromStr serde pingInterval) {m : Received}
    (hm : ∀ f, m ≠ .frame f) :
    Inv openFromStr serde pingInterval { s with taken := s.taken ++ [.received m] } := by
  have hreply : ∀ id, reply openFromStr serde id (.received m) = ([], id) := by
    intro id
    cases m with
    | frame f => exact absurd rfl (hm f)
    | _ => rfl
  have hframes : frames (s.taken ++ [.received m]) = frames s.taken := by
    rw [frames_snoc]
    cases m with
    | frame f => exact absurd rfl (hm f)
    | _ => exact List.append_nil _
  have houts : outs (s.taken ++ [.received m]) = outs s.taken := by simp [outs]
  have hwire : wire openFromStr serde 0 (s.taken ++ [.received m]) = wire openFromStr serde 0 s.taken := by
    rw [wire_snoc, hreply, List.append_nil]
  exact { h with
    id := by rw [ackIdAfter_snoc, hreply, h.id]
    written := by rw [hwire]; exact h.written
    owed := by rw [hwire]; exact h.owed
    taken := by rw [houts]; exact h.taken
    queue := by rw [houts]; exact h.queue
    correlator := by rw [hframes]; exact h.correlator
    handed := by rw [hframes]; exact h.handed
    silent := fun hmem => (h.silent hmem).imp_left fun herror => List.mem_append_left _ herror }

theorem Inv.receive (h : s.Inv openFromStr serde pingInterval) (hpc : s.pc = .selecting) (m : Received) :
    (Transport.receive openFromStr serde pingInterval { s with taken := s.taken ++ [.received m] } m).Inv
      openFromStr serde pingInterval := by
  have hover : s.pc.over = false := by rw [hpc]; rfl
  cases m with
  | frame f =>
    have hreads : ReadsFrame openFromStr serde pingInterval
        (Reader.readAll openFromStr serde (frames s.taken)) f
        { s with taken := s.taken ++ [.received (.frame f)] } _ :=
      receive_frame (s := { s with taken := s.taken ++ [.received (.frame f)] }) hpc f h.correlator
    obtain ⟨pc, inbound, new, heq, hread, hnew, howed, hover', hinbound⟩ := hreads
    have hstopped : s.pc ≠ .stopped := by simp [hpc]
    have hwritten : s.written = wire openFromStr serde 0 s.taken := by
      simpa using h.owed [] (by rw [hpc]; rfl)
    have houts : outs (s.taken ++ [.received (.frame f)]) = outs s.taken := by simp [outs]
    have hreader : Reader.readAll openFromStr serde (frames (s.taken ++ [.received (.frame f)])) =
        (Reader.readAll openFromStr serde (frames s.taken)).read openFromStr serde f := by
      rw [frames_snoc, readAll_append]
      rfl
    have hhanded : s.handed ++ new = ((Reader.readAll openFromStr serde (frames s.taken)).read
        openFromStr serde f).inbound := by
      rw [hread, h.handed_eq hover]
    rw [heq]
    exact {
      id := by
        rw [ackIdAfter_snoc, (reply_received openFromStr serde _ (.frame f)).1]
        exact h.id
      written := by
        rw [wire_snoc, ← hwritten]
        exact List.prefix_append _ _
      owed := fun left hleft => by
        rw [howed] at hleft
        rw [wire_snoc, ← hwritten, Option.some.inj hleft]
      taken := by rw [houts]; exact h.taken
      queue := fun _ => by rw [houts]; exact h.queue hstopped
      correlator := by rw [hreader]
      handed := ⟨[], by rw [hreader, List.append_nil]; exact hhanded, .inl rfl⟩
      got := h.got.trans (List.prefix_append _ _)
      inbound := fun hreceiver => by
        rw [hinbound hreceiver, ← List.append_assoc, ← h.inbound hreceiver]
      deadline := rfl
      heard := Nat.le_refl _
      silent := fun hmem => by
        rcases List.mem_append.mp hmem with hmem | hmem
        · rcases h.silent hmem with herror | ⟨hover'', -⟩
          · exact .inl (List.mem_append_left _ herror)
          · rw [hover] at hover''
            cases hover''
        · exact absurd rfl (hnew _ hmem _) }
  | close => exact (h.takeOther (by simp)).close hover (by simp)
  | other => exact h.takeOther (by simp)
  | error e =>
    refine (h.takeOther (by simp)).close hover ?_
    rintro rfl
    exact .inl (by simp)
  | «end» => exact (h.takeOther (by simp)).close hover (by simp)

theorem owed_resume (pc : TransportPc) : (resume pc).owed = pc.owed ∧ (resume pc).over = pc.over := by
  cases pc with
  | handing last => cases last <;> exact ⟨rfl, rfl⟩
  | _ => exact ⟨rfl, rfl⟩

theorem Inv.resume (h : s.Inv openFromStr serde pingInterval) :
    Inv openFromStr serde pingInterval { s with pc := Transport.resume s.pc } := by
  obtain ⟨howed, hover⟩ := owed_resume s.pc
  exact { h with
    owed := by rw [howed]; exact h.owed
    queue := fun hne => h.queue fun hpc => hne (by simp [hpc, Transport.resume])
    handed := by rw [hover]; exact h.handed
    silent := by rw [hover]; exact h.silent }

/-- The next of the frames that are owed is written. -/
theorem Inv.writes (h : s.Inv openFromStr serde pingInterval) {f : Frame} {left : List Frame}
    (howed : s.pc.owed = some (f :: left)) (hover : s.pc.over = false) {pc : TransportPc}
    (howed' : pc.owed = some left) :
    Inv openFromStr serde pingInterval { s with pc, written := s.written ++ [f] } := by
  have hwire := h.owed _ howed
  have hstopped : s.pc ≠ .stopped := by
    intro hpc
    rw [hpc] at hover
    cases hover
  rw [← List.singleton_append, ← List.append_assoc] at hwire
  exact { h with
    written := hwire ▸ List.prefix_append _ _
    owed := fun left' hleft' => by
      obtain rfl := Option.some.inj (howed'.symm.trans hleft')
      exact hwire
    queue := fun _ => h.queue hstopped
    handed := ⟨[], by rw [List.append_nil]; exact h.handed_eq hover, .inl rfl⟩
    silent := fun hmem => (h.silent hmem).imp_right fun ⟨hend, _⟩ => by
      rw [hover] at hend
      cases hend }

theorem Inv.step {a : TransportStep} (h : s.Inv openFromStr serde pingInterval)
    (hs : s.step openFromStr serde pingInterval a = some s') : s'.Inv openFromStr serde pingInterval := by
  cases a with
  | tick d =>
    simp only [Transport.step, Option.ite_none_left_eq_some] at hs
    obtain rfl := Option.some.inj hs.2
    exact { h with
      heard := Nat.le_trans h.heard (Nat.le_add_right _ _)
      silent := fun hmem => (h.silent hmem).imp_right fun ⟨hover, hle⟩ =>
        ⟨hover, Nat.le_trans hle (Nat.le_add_right _ _)⟩ }
  | receive m =>
    simp only [Transport.step, Option.ite_none_right_eq_some] at hs
    exact Option.some.inj hs.2 ▸ h.receive hs.1 m
  | recvOut =>
    simp only [Transport.step, Option.ite_none_right_eq_some] at hs
    obtain ⟨hpc, hs⟩ := hs
    have hwritten : s.written = wire openFromStr serde 0 s.taken := by
      simpa using h.owed [] (by rw [hpc]; rfl)
    split at hs
    · rename_i out rest hrecv
      obtain rfl := Option.some.inj hs
      have houts : outs (s.taken ++ [.outbound out]) = outs s.taken ++ [out] := by simp [outs]
      have hframes : frames (s.taken ++ [.outbound out]) = frames s.taken := by simp [frames]
      have hqueue : s.submitted = outs s.taken ++ [out] ++ (rest.queue ++ rest.waiting) := by
        rw [h.queue (by simp [hpc]), Tokio.Mpsc.pending_recv _ hrecv]
        simp
      exact { h with
        id := by rw [ackIdAfter_snoc, ← h.id]; rfl
        written := by rw [wire_snoc, ← hwritten]; exact List.prefix_append _ _
        owed := fun left hleft => by
          obtain rfl := Option.some.inj hleft
          rw [wire_snoc, ← hwritten, ← h.id]
          rfl
        taken := by rw [houts, hqueue]; exact List.prefix_append _ _
        queue := fun _ => by rw [houts]; exact hqueue
        correlator := by rw [hframes]; exact h.correlator
        handed := by
          rw [hframes]
          exact ⟨[], by rw [List.append_nil]; exact h.handed_eq (by rw [hpc]; rfl), .inl rfl⟩
        silent := fun hmem => by
          rcases h.silent hmem with herror | ⟨hover, -⟩
          · exact .inl (List.mem_append_left _ herror)
          · rw [hpc] at hover
            cases hover }
    · rw [Option.ite_none_left_eq_some] at hs
      obtain rfl := Option.some.inj hs.2
      exact { h with
        owed := by simp [TransportPc.owed]
        queue := fun hne => absurd rfl hne
        handed := ⟨[], by rw [List.append_nil]; exact h.handed_eq (by rw [hpc]; rfl), .inl rfl⟩
        silent := fun hmem => (h.silent hmem).imp_right fun ⟨_, hle⟩ => ⟨rfl, hle⟩ }
  | sent ok =>
    simp only [Transport.step] at hs
    split at hs
    · rename_i hpc
      cases ok with
      | false =>
        obtain rfl := Option.some.inj hs
        exact h.close (by rw [hpc]; rfl) (by simp)
      | true =>
        obtain rfl := Option.some.inj hs
        exact h.writes (by rw [hpc]; rfl) (by rw [hpc]; rfl) rfl
    · rename_i f left hpc
      cases ok with
      | false =>
        obtain rfl := Option.some.inj hs
        exact h.close (by rw [hpc]; rfl) (by simp)
      | true =>
        obtain rfl := Option.some.inj hs
        refine h.writes (by rw [hpc]; rfl) (by rw [hpc]; rfl) ?_
        by_cases hleft : left = []
        · rw [hleft]; rfl
        · rw [if_neg hleft]; rfl
    · cases hs
  | timeout =>
    simp only [Transport.step, Option.ite_none_right_eq_some] at hs
    obtain ⟨⟨hpc, hle⟩, hs⟩ := hs
    obtain rfl := Option.some.inj hs
    exact h.close (by rw [hpc]; rfl) fun _ => .inr (by rw [← h.deadline]; exact hle)
  | submit out =>
    simp only [Transport.step, Option.ite_none_right_eq_some] at hs
    obtain rfl := Option.some.inj hs.2
    exact { h with
      taken := h.taken.trans (List.prefix_append _ _)
      queue := fun hne => by
        rw [Tokio.Mpsc.pending_send, ← List.append_assoc, ← h.queue hne] }
  | dropSenders =>
    obtain rfl := Option.some.inj hs
    exact { h with }
  | consume =>
    simp only [Transport.step, Option.ite_none_right_eq_some] at hs
    obtain ⟨hreceiver, hs⟩ := hs
    obtain ⟨⟨ev, rest⟩, hrecv, rfl⟩ := Option.map_eq_some_iff.mp hs
    have hall : s.got ++ [ev] ++ (rest.queue ++ rest.waiting) = s.handed := by
      rw [← h.inbound hreceiver, Tokio.Mpsc.pending_recv _ hrecv]
      simp
    exact { h.resume with
      got := hall ▸ List.prefix_append _ _
      inbound := fun _ => hall }
  | dropReceiver =>
    obtain rfl := Option.some.inj hs
    exact { h.resume with inbound := by simp }
  | closed =>
    simp only [Transport.step, Option.ite_none_left_eq_some] at hs
    obtain rfl := Option.some.inj hs.2
    exact { h with
      owed := by simp [TransportPc.owed]
      queue := fun hne => absurd rfl hne
      handed := by
        obtain ⟨closing, heq, hclosing⟩ := h.handed
        exact ⟨closing, heq, hclosing.imp_right fun ⟨_, hreason⟩ => ⟨rfl, hreason⟩⟩
      silent := fun hmem => (h.silent hmem).imp_right fun ⟨_, hle⟩ => ⟨rfl, hle⟩ }

theorem inv_of_reachable (h : Reachable (transportSystem openFromStr serde pingInterval) s) :
    s.Inv openFromStr serde pingInterval :=
  h.induct (P := Inv openFromStr serde pingInterval) .new fun _ _ _ _ _ hs hi => hi.step hs

/-- Between two rounds everything is written. -/
theorem Inv.written_eq (h : s.Inv openFromStr serde pingInterval) (hpc : s.pc = .selecting) :
    s.written = wire openFromStr serde 0 s.taken := by
  have howed := h.owed [] (by rw [hpc]; rfl)
  rwa [List.append_nil] at howed

/-- What the task has written and handed on follows from what it has taken: the wire carries the answer to
each ping and the frames of each event in the order in which these were taken, with nothing in between,
and the receiver gets what the reader makes of the frames, and after it the reason for the end, if the
loop has ended with one. -/
structure Follows (openFromStr : String → Except String EngineIo.OpenPayload) (serde : Serde)
    (s : Transport) : Prop where
  written : s.written <+: wire openFromStr serde 0 s.taken
  selecting : s.pc = .selecting → s.written = wire openFromStr serde 0 s.taken
  outbound : s.pc ≠ .stopped → s.submitted = outs s.taken ++ (s.outbound.queue ++ s.outbound.waiting)
  handed : ∃ closing, s.handed = (Reader.readAll openFromStr serde (frames s.taken)).inbound ++ closing ∧
    (closing = [] ∨ s.pc.over = true ∧ ∃ reason, closing = [.transportClosed reason])
  got : s.got <+: s.handed
  inbound : s.receiver = true → s.got ++ (s.inbound.queue ++ s.inbound.waiting) = s.handed

end Transport

variable {openFromStr : String → Except String EngineIo.OpenPayload} {serde : Serde} {pingInterval : UInt64}
  {s t : Transport}

/-- In whatever order `select!` takes things, the task has written, handed on and kept what follows from
what it has taken. -/
theorem transport_follows (h : Reachable (transportSystem openFromStr serde pingInterval) s) :
    s.Follows openFromStr serde := by
  have hinv := Transport.inv_of_reachable h
  exact ⟨hinv.written, hinv.written_eq, hinv.queue, hinv.handed, hinv.got, hinv.inbound⟩

namespace Sample

def auth : Json := .obj [("token", .str "t")]

/-- `serde_json`, also on the payload of a CONNECT. -/
def session : Serde :=
  { Sample.serde with
    valueToString := fun _ => "\x7b\"token\":\"t\"\x7d"
    valueFromStr := fun s =>
      if s = "\x7b\"token\":\"t\"\x7d" then .ok auth else .error "expected value" }

/-- Two events, with a ping of the server between them. -/
def exchange : List TransportStep :=
  [.submit (.connect auth), .submit (.binaryEvent "trigger" [7] false), .recvOut, .sent true, .tick 20000,
    .receive (.frame (.text "2")), .sent true, .recvOut, .sent true, .sent true]

theorem reachable_of_run {serde : Serde} {pingInterval : UInt64} {as : List TransportStep} {s : Transport}
    (h : run (transportSystem (fun _ => .error "expected value") serde pingInterval)
      (.new pingInterval) as = some s) :
    Reachable (transportSystem (fun _ => .error "expected value") serde pingInterval) s :=
  reachableWhere_of_runWhere (fun _ _ _ => trivial) .init h

end Sample

/-- What the task has made of them. -/
theorem transport_follows_exchange : ∃ s,
    Reachable (transportSystem (fun _ => .error "expected value") Sample.session 25000) s ∧
      s.heard = 20000 ∧ s.written.length = 4 ∧ s.Follows (fun _ => .error "expected value") Sample.session := by
  have hrun : ∃ s, run (transportSystem (fun _ => .error "expected value") Sample.session 25000)
      (.new 25000) Sample.exchange = some s ∧ s.heard = 20000 ∧ s.written.length = 4 := ⟨_, rfl, rfl, rfl⟩
  obtain ⟨s, hs, hheard, hwritten⟩ := hrun
  exact ⟨s, Sample.reachable_of_run hs, hheard, hwritten, transport_follows (Sample.reachable_of_run hs)⟩

/-! ## What the peer reads -/

/-- Parsing inverts printing on the payload of a CONNECT. -/
structure InvertsConnect (serde : Serde) (auth : Json) : Prop where
  valueFromStr : serde.valueFromStr (serde.valueToString auth) = .ok auth
  notEmpty : serde.valueToString auth ≠ ""

theorem decodeAll_connect {auth : Json} (h : InvertsConnect serde auth) (rest : List Frame) :
    decodeAll openFromStr serde .new
        (.text (EngineIo.encodeMessage (SocketIo.encodeConnect serde auth)) :: rest) =
      (decodeAll openFromStr serde .new rest).map fun d =>
        ⟨d.headerIds, .connected (some auth) :: d.events⟩ := by
  have hne : (serde.valueToString auth).toList ≠ [] := fun hnil =>
    h.notEmpty (String.toList_injective hnil)
  have hparse : SocketIo.parseText serde (SocketIo.encodeConnect serde auth) = .ok (.connect (some auth)) := by
    simp [SocketIo.parseText, SocketIo.encodeConnect, hne, h.valueFromStr]
  have hfeed : Correlator.new.feedText serde (SocketIo.encodeConnect serde auth) =
      .ok (.new, some (.connected (some auth))) := by
    simp [Correlator.feedText, Correlator.new, hparse]
  simp only [decodeAll, EngineIo.parseText_encodeMessage, hfeed, headerId, hparse]
  simp

/-- When a task has nothing left to do, the peer has read all that was submitted, each event once and in
order, with the acks asked for numbered from 0, whatever pings were answered in between. -/
theorem peer_reads (h : Reachable (transportSystem openFromStr serde pingInterval) s)
    (hpc : s.pc = .selecting) (hqueue : s.outbound.queue = []) {auth : Json} {subs : List Submission}
    (hsubmitted : s.submitted = .connect auth :: subs.map Submission.outbound)
    (hauth : InvertsConnect serde auth) (hsubs : ∀ sub ∈ subs, Inverts serde sub.name) :
    decodeAll openFromStr serde .new s.written =
      some ⟨ackIds 0 subs, .connected (some auth) :: subs.map fun sub => .binary sub.name [sub.payload]⟩ := by
  have hinv := Transport.inv_of_reachable h
  have hwaiting : s.outbound.waiting = [] := by
    by_contra hne
    have hfull := s.outbound.full_of_waiting hne
    rw [hqueue] at hfull
    cases hfull
  have houts : outs s.taken = .connect auth :: subs.map Submission.outbound := by
    rw [← hsubmitted, hinv.queue (by simp [hpc]), hqueue, hwaiting]
    simp
  have hevents : decodeAll openFromStr serde .new
      (encodeAll serde (UInt64.ofNat 0) (subs.map Submission.outbound)) = _ :=
    decodeAll_encodeAll 0 subs hsubs
  calc decodeAll openFromStr serde .new s.written
      = decodeAll openFromStr serde .new
          ((wire openFromStr serde 0 s.taken).filter (!·.isControl)) := by
        rw [decodeAll_filter, hinv.written_eq hpc]
    _ = decodeAll openFromStr serde .new
          (encodeAll serde 0 (.connect auth :: subs.map Submission.outbound)) := by
        rw [filter_wire, houts]
    _ = _ := by
        rw [encodeAll, encodeOutbound, List.singleton_append, decodeAll_connect hauth]
        simp only [show (0 : UInt64) = UInt64.ofNat 0 from rfl, hevents, Option.map_some]

/-- The peer of the exchange. -/
theorem peer_reads_exchange : ∃ s,
    Reachable (transportSystem (fun _ => .error "expected value") Sample.session 25000) s ∧
      decodeAll (fun _ => .error "expected value") Sample.session .new s.written =
        some ⟨[none], [.connected (some Sample.auth), .binary "trigger" [[7]]]⟩ := by
  have hrun : ∃ s, run (transportSystem (fun _ => .error "expected value") Sample.session 25000)
      (.new 25000) Sample.exchange = some s ∧ s.pc = .selecting ∧ s.outbound.queue = [] ∧
        s.submitted =
          .connect Sample.auth :: [(⟨"trigger", [7], false⟩ : Submission)].map Submission.outbound :=
    ⟨_, rfl, rfl, rfl, rfl⟩
  obtain ⟨s, hs, hpc, hqueue, hsubmitted⟩ := hrun
  refine ⟨s, Sample.reachable_of_run hs, ?_⟩
  refine peer_reads (Sample.reachable_of_run hs) hpc hqueue hsubmitted ⟨rfl, by decide⟩ ?_
  intro sub hsub
  obtain rfl := List.mem_singleton.mp hsub
  exact ⟨rfl, by decide⟩

/-! ## The watchdog -/

namespace Transport

theorem close_time (s : Transport) (reason : String) :
    (s.close reason).now = s.now ∧ (s.close reason).deadline = s.deadline := by
  obtain ⟨pc, inbound, heq, -, -⟩ := hand_eq s (.transportClosed reason) true
  rw [close, heq]
  exact ⟨rfl, rfl⟩

/-- In `select!` time does not pass beyond the deadline, and no step brings the deadline forward. -/
theorem now_le_of_step {a : TransportStep} (h : s.Inv openFromStr serde pingInterval)
    (hpc : s.pc = .selecting) (hs : s.step openFromStr serde pingInterval a = some t) :
    s.deadline ≤ t.deadline ∧ (t.now = s.now ∨ t.now ≤ t.deadline) := by
  cases a with
  | tick d =>
    simp only [Transport.step, Option.ite_none_left_eq_some, not_and, Nat.not_lt] at hs
    obtain rfl := Option.some.inj hs.2
    exact ⟨Nat.le_refl _, .inr (hs.1 hpc)⟩
  | receive m =>
    simp only [Transport.step, if_pos hpc] at hs
    obtain rfl := Option.some.inj hs
    cases m with
    | frame f =>
      have hreads : ReadsFrame openFromStr serde pingInterval
          (Reader.readAll openFromStr serde (frames s.taken)) f
          { s with taken := s.taken ++ [.received (.frame f)] } _ :=
        receive_frame (s := { s with taken := s.taken ++ [.received (.frame f)] }) hpc f h.correlator
      obtain ⟨pc, inbound, new, heq, -⟩ := hreads
      rw [heq]
      refine ⟨?_, .inl rfl⟩
      rw [h.deadline]
      exact Nat.add_le_add_right h.heard _
    | other => exact ⟨Nat.le_refl _, .inl rfl⟩
    | _ => simp [Transport.receive, close_time]
  | recvOut =>
    simp only [Transport.step, if_pos hpc] at hs
    split at hs
    · obtain rfl := Option.some.inj hs
      exact ⟨Nat.le_refl _, .inl rfl⟩
    · rw [Option.ite_none_left_eq_some] at hs
      obtain rfl := Option.some.inj hs.2
      exact ⟨Nat.le_refl _, .inl rfl⟩
  | sent ok => simp [Transport.step, hpc] at hs
  | timeout =>
    simp only [Transport.step, Option.ite_none_right_eq_some] at hs
    obtain rfl := Option.some.inj hs.2
    exact ⟨Nat.le_of_eq (close_time _ _).2.symm, .inl (close_time _ _).1⟩
  | submit out =>
    simp only [Transport.step, Option.ite_none_right_eq_some] at hs
    obtain rfl := Option.some.inj hs.2
    exact ⟨Nat.le_refl _, .inl rfl⟩
  | consume =>
    simp only [Transport.step, Option.ite_none_right_eq_some] at hs
    obtain ⟨-, -, rfl⟩ := Option.map_eq_some_iff.mp hs.2
    exact ⟨Nat.le_refl _, .inl rfl⟩
  | closed =>
    simp only [Transport.step, Option.ite_none_left_eq_some] at hs
    obtain rfl := Option.some.inj hs.2
    exact ⟨Nat.le_refl _, .inl rfl⟩
  | dropSenders | dropReceiver =>
    obtain rfl := Option.some.inj hs
    exact ⟨Nat.le_refl _, .inl rfl⟩

end Transport

/-- The watchdog reports a silent server, and only such a one: the timeout is handed on only when no text
or binary frame has come for the whole period (a message of another kind counts as none), and as long as
the task is in `select!`, it does not wait for longer. The second half is about a runtime that takes its
timers on time: the clock does not pass a deadline of the task. -/
theorem watchdog_reports (h : Reachable (transportSystem openFromStr serde pingInterval) s) :
    (.transportClosed "server ping timeout" ∈ s.handed →
      .received (.error "server ping timeout") ∉ s.taken →
        s.heard + Transport.period pingInterval ≤ s.now) ∧
    ∀ as t, PathWhere (transportSystem openFromStr serde pingInterval) (fun u _ => u.pc = .selecting)
      s as t → t.now ≤ max s.now (t.heard + Transport.period pingInterval) := by
  have hinv := Transport.inv_of_reachable h
  refine ⟨?_, ?_⟩
  · intro hmem herror
    exact ((hinv.silent hmem).resolve_left herror).2
  · intro as t hp
    have hboth : Reachable (transportSystem openFromStr serde pingInterval) t ∧
        t.now ≤ max s.now t.deadline := by
      induction hp with
      | nil => exact ⟨h, Nat.le_max_left _ _⟩
      | snoc _ hpc hs ih =>
        obtain ⟨hr, hle⟩ := ih
        obtain ⟨hdeadline, hnow⟩ := Transport.now_le_of_step (Transport.inv_of_reachable hr) hpc hs
        refine ⟨.step hr trivial hs, ?_⟩
        omega
    rw [← (Transport.inv_of_reachable hboth.1).deadline]
    exact hboth.2

/-- Nothing comes from the server. -/
theorem watchdog_reports_silent : ∃ s,
    Reachable (transportSystem (fun _ => .error "expected value") Sample.session 25000) s ∧
      s.handed = [.transportClosed "server ping timeout"] ∧ s.heard + Transport.period 25000 ≤ s.now := by
  have hrun : ∃ s, run (transportSystem (fun _ => .error "expected value") Sample.session 25000)
      (.new 25000) [.tick 29000, .submit (.connect Sample.auth), .recvOut, .sent true, .tick 1000, .timeout] =
        some s ∧ s.handed = [.transportClosed "server ping timeout"] ∧
        s.taken = [.outbound (.connect Sample.auth)] := ⟨_, rfl, rfl, rfl⟩
  obtain ⟨s, hs, hhanded, htaken⟩ := hrun
  have hsilent := (watchdog_reports (Sample.reachable_of_run hs)).1
  rw [hhanded, htaken] at hsilent
  exact ⟨s, Sample.reachable_of_run hs, hhanded, hsilent (by simp) (by simp)⟩

end Buddy3dProxy.Signaling
