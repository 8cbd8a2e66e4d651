import Buddy3dProxy.Signaling.Connection
import Buddy3dProxy.Signaling.Correlation

/-!
# Before the CONNECT reply

What becomes of the server's frames until `from_transport` (`prusa/signaling/mod.rs`) has its reply: the
driver of `prusa/signaling/client.rs` parses them and hands on events, and `from_transport` waits for
the one it needs.
-/

namespace Buddy3dProxy.Signaling

open SocketIo (Json Serde Correlator Event)

/-! ## The driver -/

/-- What the driver hands on for an event of its correlator. Of the attachments only the first one is
used, and events without any are only logged. -/
def inbound? : Event → Option Inbound
  | .connected auth => some (.connected ((auth.bind (·.get "sid")).bind Json.asStr))
  | .disconnected => some .disconnected
  | .ack id args => some (.ack id args)
  | .binary name attachments => some (.binaryEvent name (attachments.head?.getD []))
  | .text _ _ => none

/-- The reading half of the driver. -/
structure Reader where
  correlator : Correlator
  /-- What it has handed on. -/
  inbound : List Inbound
  /-- Its answers to pings. -/
  pongs : List Frame

namespace Reader

section Model

variable (openFromStr : String → Except String EngineIo.OpenPayload) (serde : Serde)

def new : Reader := ⟨.new, [], []⟩

/-- A packet or an attachment is fed to the correlator; errors are only logged. -/
def correlate (r : Reader) (f : Fed) : Reader :=
  { r with
    correlator := afterFrame serde r.correlator f
    inbound := r.inbound ++ ((delivered serde r.correlator f).bind inbound?).toList }

def read (r : Reader) : Frame → Reader
  | .text t =>
    match EngineIo.parseText openFromStr t with
    | .ok .ping => { r with pongs := r.pongs ++ [.text EngineIo.encodePong] }
    | .ok (.message payload) => r.correlate serde (.text payload)
    | .ok _ => r
    | .error _ => r
  | .binary b => r.correlate serde (.binary b)

def readAll (frames : List Frame) : Reader := frames.foldl (read openFromStr serde) new

end Model

end Reader

/-! ## Waiting for the reply -/

/-- Where `from_transport` stands after some events. -/
inductive Handshake where
  | waiting
  | connected (sid : String)
  /-- It has returned an error. -/
  | failed (reason : String)
  deriving DecidableEq, Repr

def handshake : List Inbound → Handshake
  | [] => .waiting
  | .connected sid :: _ => .connected (sid.getD "")
  | .transportClosed reason :: _ => .failed reason
  | _ :: rest => handshake rest

/-- `from_transport` after the server's frames. -/
def fromTransport (openFromStr : String → Except String EngineIo.OpenPayload) (serde : Serde)
    (frames : List Frame) : Handshake :=
  handshake (Reader.readAll openFromStr serde frames).inbound

/-- A CONNECT packet in an Engine.IO message. -/
def Frame.IsConnect (f : Frame) : Prop := ∃ rest, f = .text ("40" ++ rest)

/-- A DISCONNECT or a CONNECT_ERROR packet in an Engine.IO message. -/
def Frame.IsRefusal (f : Frame) : Prop := ∃ rest, f = .text ("41" ++ rest) ∨ f = .text ("44" ++ rest)

theorem handshake_eq_waiting_iff {inbound : List Inbound} :
    handshake inbound = .waiting ↔
      ∀ ev ∈ inbound, (∀ sid, ev ≠ .connected sid) ∧ ∀ reason, ev ≠ .transportClosed reason := by
  induction inbound with
  | nil => simp [handshake]
  | cons ev rest ih => cases ev <;> simp [handshake, ih]

theorem handshake_append_eq_waiting {front more : List Inbound} :
    handshake (front ++ more) = .waiting ↔ handshake front = .waiting ∧ handshake more = .waiting := by
  simp only [handshake_eq_waiting_iff, List.forall_mem_append]

/-- Waiting takes events off the channel and changes nothing else. -/
theorem Connection.exists_path_reply {cfg : Config} {s : Connection} (hwait : s.caller = .awaitingReply)
    {inbound rest : List Inbound} (hraw : s.rawEvents = inbound ++ rest)
    (h : handshake inbound = .waiting) :
    Transition.Path (connectionSystem cfg) s (List.replicate inbound.length .reply)
      { s with rawEvents := rest } := by
  induction inbound using List.reverseRecOn generalizing rest with
  | nil =>
    obtain rfl : rest = s.rawEvents := by simpa using hraw.symm
    exact .nil s
  | append_singleton front ev ih =>
    obtain ⟨hfront, hev⟩ := handshake_append_eq_waiting.mp h
    have hraw' : s.rawEvents = front ++ ev :: rest := by simpa using hraw
    have hpath := ih hraw' hfront
    rw [List.length_append, List.length_singleton, List.replicate_succ']
    refine .snoc hpath trivial ?_
    cases ev with
    | connected sid => simp [handshake] at hev
    | transportClosed reason => simp [handshake] at hev
    | _ => simp [connectionSystem, Connection.step, hwait]

/-! ## Refusals -/

section Refusal

variable {openFromStr : String → Except String EngineIo.OpenPayload} {serde : Serde}

theorem eq_of_toList_cons {t : String} {c : Char} {rest : List Char} (h : t.toList = c :: rest) :
    t = String.singleton c ++ String.ofList rest := by
  rw [← String.toList_inj, h]
  simp

theorem eq_of_parseText_message {t payload : String}
    (h : EngineIo.parseText openFromStr t = .ok (.message payload)) : t = "4" ++ payload := by
  unfold EngineIo.parseText at h
  split at h
  · cases h
  next kind rest ht =>
    split at h
    · split at h <;> cases h
    · cases h
    · cases h
    · cases h
    · cases h
      exact eq_of_toList_cons ht
    · cases h
    · cases h

theorem eq_of_parseText_connect {packet : String} {auth : Option Json}
    (h : SocketIo.parseText serde packet = .ok (.connect auth)) : ∃ rest, packet = "0" ++ rest := by
  unfold SocketIo.parseText at h
  split at h
  · cases h
  next kind rest hpacket =>
    split at h
    · exact ⟨String.ofList rest, eq_of_toList_cons hpacket⟩
    · cases h
    · cases hargs : SocketIo.parseArgs serde (SocketIo.splitOptionalId rest).2 with
      | error e => simp [hargs, bind, Except.bind] at h
      | ok args =>
        cases hname : SocketIo.eventName args <;> simp [hargs, hname, bind, Except.bind, pure, Except.pure] at h
    · cases hid : (SocketIo.splitOptionalId rest).1 with
      | none => simp [hid] at h
      | some id =>
        cases hargs : SocketIo.parseArgs serde (SocketIo.splitOptionalId rest).2 <;>
          simp [hid, hargs, bind, Except.bind, pure, Except.pure] at h
    · unfold SocketIo.parseBinaryHeader at h
      split at h
      next count afterDash hdash =>
        split at h
        next n hn =>
          cases hargs : SocketIo.parseArgs serde (SocketIo.splitOptionalId afterDash).2 with
          | error e => simp [hargs, bind, Except.bind] at h
          | ok args =>
            cases hname : SocketIo.eventName args <;>
              simp [hargs, hname, bind, Except.bind, pure, Except.pure] at h
        · cases h
      · cases h
    · cases h

/-- Only a CONNECT packet makes the correlator say that the session is connected. -/
theorem delivered_connected {c : Correlator} {f : Fed} {auth : Option Json}
    (h : delivered serde c f = some (.connected auth)) : ∃ rest, f = .text ("0" ++ rest) := by
  cases hp : c.pending with
  | none =>
    cases f with
    | binary payload =>
      rw [(binary_of_idle hp payload).2] at h
      cases h
    | text packet =>
      cases hparse : SocketIo.parseText serde packet with
      | error e => simp [delivered, feed, Correlator.feedText, hp, hparse] at h
      | ok parsed =>
        cases parsed with
        | connect auth' =>
          obtain ⟨rest, hrest⟩ := eq_of_parseText_connect hparse
          exact ⟨rest, by rw [hrest]⟩
        | binaryEventHeader count id name placeholders =>
          by_cases hcount : count = 0 <;>
            simp [delivered, feed, Correlator.feedText, hp, hparse, hcount] at h
        | _ => simp [delivered, feed, Correlator.feedText, hp, hparse] at h
  | some p =>
    cases f with
    | binary payload =>
      simp only [delivered, feed, Correlator.feedBinary, hp] at h
      split at h
      · rename_i heq
        subst h
        split at heq
        · cases heq
        · split at heq <;> cases heq
      · cases h
    | text packet =>
      rw [(text_of_pending hp packet).2] at h
      cases h

/-- A frame that is no CONNECT packet leaves `from_transport` waiting. -/
theorem handshake_read {r : Reader} (h : handshake r.inbound = .waiting) {f : Frame}
    (hf : ¬ f.IsConnect) : handshake (r.read openFromStr serde f).inbound = .waiting := by
  have hcorrelate : ∀ fed, (∀ rest, fed ≠ .text ("0" ++ rest)) →
      handshake (r.correlate serde fed).inbound = .waiting := by
    intro fed hfed
    refine handshake_append_eq_waiting.mpr ⟨h, handshake_eq_waiting_iff.mpr ?_⟩
    intro ev hev
    obtain ⟨event, hevent, hinbound⟩ := Option.bind_eq_some_iff.mp (Option.mem_toList.mp hev)
    cases event with
    | connected auth =>
      obtain ⟨rest, hrest⟩ := delivered_connected hevent
      exact absurd hrest (hfed rest)
    | text name args => cases hinbound
    | _ =>
      cases hinbound
      simp
  cases f with
  | binary b => exact hcorrelate (.binary b) (by simp)
  | text t =>
    cases hparse : EngineIo.parseText openFromStr t with
    | error e => simpa only [Reader.read, hparse] using h
    | ok packet =>
      cases packet with
      | message payload =>
        simp only [Reader.read, hparse]
        refine hcorrelate (.text payload) ?_
        rintro rest hrest
        cases hrest
        refine hf ⟨rest, ?_⟩
        rw [eq_of_parseText_message hparse, ← String.append_assoc]
        rfl
      | _ => simpa only [Reader.read, hparse] using h

theorem fromTransport_eq_waiting {frames : List Frame} (h : ∀ f ∈ frames, ¬ f.IsConnect) :
    fromTransport openFromStr serde frames = .waiting := by
  unfold fromTransport Reader.readAll
  induction frames using List.reverseRecOn with
  | nil => rfl
  | append_singleton front f ih =>
    rw [List.foldl_append]
    exact handshake_read (ih fun f' hf' => h f' (by simp [hf'])) (h f (by simp))

theorem Frame.IsRefusal.not_isConnect {f : Frame} (h : f.IsRefusal) : ¬ f.IsConnect := by
  rintro ⟨rest, rfl⟩
  obtain ⟨rest', heq | heq⟩ := h
  · simpa using congrArg String.toList (Frame.text.inj heq)
  · simpa using congrArg String.toList (Frame.text.inj heq)

end Refusal

/-- Whatever frames come before the CONNECT reply: when the server refuses the session, `from_transport`
does not return an error, and however the server goes on without a CONNECT it waits. -/
theorem fromTransport_refused (openFromStr : String → Except String EngineIo.OpenPayload) (serde : Serde)
    {pre post : List Frame} {refusal : Frame} (hpre : ∀ f ∈ pre, ¬ f.IsConnect) (hrefusal : refusal.IsRefusal)
    (hpost : ∀ f ∈ post, ¬ f.IsConnect) :
    (¬ ∃ reason, fromTransport openFromStr serde (pre ++ [refusal]) = .failed reason) ∧
      fromTransport openFromStr serde (pre ++ refusal :: post) = .waiting := by
  have hframes : ∀ more, (∀ f ∈ more, ¬ f.IsConnect) →
      fromTransport openFromStr serde (pre ++ refusal :: more) = .waiting := by
    intro more hmore
    refine fromTransport_eq_waiting ?_
    simp only [List.forall_mem_append, List.forall_mem_cons]
    exact ⟨hpre, hrefusal.not_isConnect, hmore⟩
  refine ⟨?_, hframes post hpost⟩
  rintro ⟨reason, hfailed⟩
  rw [hframes [] (by simp)] at hfailed
  cases hfailed

theorem Frame.not_isConnect_text {t : String} (h : ¬ "40".toList <+: t.toList) :
    ¬ (Frame.text t).IsConnect := by
  rintro ⟨rest, heq⟩
  refine h ⟨rest.toList, ?_⟩
  rw [Frame.text.inj heq, String.toList_append]

theorem Frame.not_isConnect_binary (b : List UInt8) : ¬ (Frame.binary b).IsConnect := by
  rintro ⟨rest, heq⟩
  cases heq

/-- A ping and an event with its attachment, a DISCONNECT, and another ping. -/
theorem fromTransport_refused_disconnect :
    let openFromStr : String → Except String EngineIo.OpenPayload := fun _ => .error "expected value"
    let pre : List Frame := [.text "2", .text ("451-" ++ Sample.args "trigger"), .binary [7]]
    (¬ ∃ reason, fromTransport openFromStr Sample.serde (pre ++ [.text "41"]) = .failed reason) ∧
      fromTransport openFromStr Sample.serde (pre ++ [.text "41", .text "2"]) = .waiting := by
  intro openFromStr pre
  have hpre : ∀ f ∈ pre, ¬ f.IsConnect := by
    simp only [pre, List.forall_mem_cons]
    exact ⟨Frame.not_isConnect_text (by decide), Frame.not_isConnect_text (by decide),
      Frame.not_isConnect_binary [7], by simp⟩
  have hpost : ∀ f ∈ [Frame.text "2"], ¬ f.IsConnect :=
    List.forall_mem_singleton.mpr (Frame.not_isConnect_text (by decide))
  exact fromTransport_refused openFromStr Sample.serde hpre ⟨"", .inl rfl⟩ hpost

/-- Neither a DISCONNECT nor a CONNECT_ERROR ends the wait. -/
theorem not_fromTransport_refused :
    let openFromStr : String → Except String EngineIo.OpenPayload := fun _ => .error "expected value"
    let connectError : Frame := .text "44\x7b\"message\":\"Invalid token\"\x7d"
    (Frame.text "41").IsRefusal ∧ connectError.IsRefusal ∧
      fromTransport openFromStr Sample.serde [.text "41"] = .waiting ∧
      fromTransport openFromStr Sample.serde [connectError] = .waiting := by
  intro openFromStr connectError
  have hrefusal : connectError.IsRefusal := ⟨"\x7b\"message\":\"Invalid token\"\x7d", .inr rfl⟩
  exact ⟨⟨"", .inl rfl⟩, hrefusal, by decide +kernel, by decide +kernel⟩

end Buddy3dProxy.Signaling
