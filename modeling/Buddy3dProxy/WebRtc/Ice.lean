import Buddy3dProxy.Transition.Log
import Buddy3dProxy.WebRtc.Driver

/-!
# Remote candidates

`handle_signal` of `webrtc_session.rs` and what it asks of the peer connection. A remote candidate goes
to the peer connection, or into a buffer that the next offer drains.
-/

namespace Buddy3dProxy.WebRtc

/-! ## Messages -/

structure SdpBody where
  sdp : String
  mid : String
  deriving DecidableEq, Repr

structure IceCandidateBody where
  candidate : String
  streamId : String
  deriving DecidableEq, Repr

/-- A signal, without the ICE configuration that only a kick-off has. -/
structure WebRtcSignal where
  token : String
  sessionId : String
  peerId : String
  body : List UInt8
  msgType : UInt32
  direction : UInt32
  deriving DecidableEq, Repr

structure RTCIceCandidateInit where
  candidate : String
  sdpMid : Option String
  sdpMlineIndex : Option UInt16
  usernameFragment : Option String
  deriving DecidableEq, Repr

inductive SessionError where
  | webRtc (e : String)
  | sendClosed
  | decode (e : String)
  deriving DecidableEq, Repr

/-- What the code uses of `prost`. -/
structure Prost where
  decodeSdpBody : List UInt8 → Except String SdpBody
  encodeSdpBody : SdpBody → List UInt8
  decodeIceCandidateBody : List UInt8 → Except String IceCandidateBody

/-! ## The session -/

/-- A call of the peer connection. -/
inductive PcCall where
  | setRemoteDescription (sdp : String) (result : Except String Unit)
  | addIceCandidate (init : RTCIceCandidateInit)
  | createAnswer
  | setLocalDescription (sdp : String)

/-- What the calls made for one signal come to. -/
structure PcResults where
  /-- `RTCSessionDescription::offer`. -/
  offer : Except String Unit
  setRemoteDescription : Except String Unit
  /-- `add_ice_candidate` outside the drain, where a failure is only logged. -/
  addIceCandidate : Except String Unit
  createAnswer : Except String String
  setLocalDescription : Except String Unit
  /-- Whether the receiver of the outbound channel is still there. -/
  send : Bool

structure WebRtcSession where
  cameraToken : String
  sessionId : String
  /-- Candidates that came before a remote description was set. -/
  pendingIce : List RTCIceCandidateInit
  /-- The peer connection's: that of the last offer it took. -/
  remoteDescription : Option String
  calls : List PcCall
  outbound : List WebRtcSignal

namespace WebRtcSession

def new (cameraToken sessionId : String) : WebRtcSession := ⟨cameraToken, sessionId, [], none, [], []⟩

def setRemoteDescription (s : WebRtcSession) (sdp : String) (result : Except String Unit) :
    WebRtcSession :=
  { s with
    calls := s.calls ++ [.setRemoteDescription sdp result]
    remoteDescription := match result with
      | .ok () => some sdp
      | .error _ => s.remoteDescription }

/-- The buffered candidates are added one after another, whether or not they are rejected. -/
def drain (s : WebRtcSession) : WebRtcSession :=
  { s with pendingIce := [], calls := s.calls ++ s.pendingIce.map .addIceCandidate }

/-- The answer to an offer that has been set. -/
def answer (prost : Prost) (r : PcResults) (s : WebRtcSession) (mid : String) :
    WebRtcSession × Except SessionError Unit :=
  let s := { s with calls := s.calls ++ [.createAnswer] }
  match r.createAnswer with
  | .error e => (s, .error (.webRtc e))
  | .ok sdp =>
    let s := { s with calls := s.calls ++ [.setLocalDescription sdp] }
    match r.setLocalDescription with
    | .error e => (s, .error (.webRtc e))
    | .ok () =>
      if r.send then
        let reply : WebRtcSignal :=
          ⟨s.cameraToken, s.sessionId, s.sessionId, prost.encodeSdpBody ⟨sdp, mid⟩, 2, 2⟩
        ({ s with outbound := s.outbound ++ [reply] }, .ok ())
      else (s, .error .sendClosed)

def handleOffer (prost : Prost) (r : PcResults) (s : WebRtcSession) (bytes : List UInt8) :
    WebRtcSession × Except SessionError Unit :=
  match prost.decodeSdpBody bytes with
  | .error e => (s, .error (.decode ("decode sdp: " ++ e)))
  | .ok body =>
    match r.offer with
    | .error e => (s, .error (.webRtc e))
    | .ok () =>
      match r.setRemoteDescription with
      | .error e => (s.setRemoteDescription body.sdp (.error e), .error (.webRtc e))
      | .ok () => (s.setRemoteDescription body.sdp (.ok ())).drain.answer prost r body.mid

/-- The candidate of a message, without the `a=` of an SDP line. -/
def candidateInit (body : IceCandidateBody) : RTCIceCandidateInit where
  candidate :=
    match "a=".toList.isPrefixOf? body.candidate.toList with
    | some rest => String.ofList rest
    | none => body.candidate
  sdpMid := some body.streamId
  sdpMlineIndex := some 0
  usernameFragment := none

def handleCandidate (prost : Prost) (r : PcResults) (s : WebRtcSession) (bytes : List UInt8) :
    WebRtcSession × Except SessionError Unit :=
  match prost.decodeIceCandidateBody bytes with
  | .error e => (s, .error (.decode ("decode ice: " ++ e)))
  | .ok body =>
    if s.remoteDescription.isSome then
      ({ s with calls := s.calls ++ [.addIceCandidate (candidateInit body)] },
        r.addIceCandidate.mapError .webRtc)
    else ({ s with pendingIce := s.pendingIce ++ [candidateInit body] }, .ok ())

/-- Process a signal of the camera. -/
def handleSignal (prost : Prost) (s : WebRtcSession) (signal : WebRtcSignal) (r : PcResults) :
    WebRtcSession × Except SessionError Unit :=
  if signal.msgType = 3 then s.handleOffer prost r signal.body
  else if signal.msgType = 4 then s.handleCandidate prost r signal.body
  else (s, .ok ())

/-- Signals are processed one after another, whether or not handling one fails. -/
def run (prost : Prost) (s : WebRtcSession) (inputs : List (WebRtcSignal × PcResults)) : WebRtcSession :=
  inputs.foldl (fun s input => (s.handleSignal prost input.1 input.2).1) s

end WebRtcSession

/-! ## What one signal does -/

/-- The candidate in a signal that has one. -/
def candidate? (prost : Prost) (signal : WebRtcSignal) : Option RTCIceCandidateInit :=
  if signal.msgType = 4 then
    match prost.decodeIceCandidateBody signal.body with
    | .ok body => some (WebRtcSession.candidateInit body)
    | .error _ => none
  else none

/-- The candidates submitted to the peer connection, in order. -/
def submitted (calls : List PcCall) : List RTCIceCandidateInit :=
  calls.filterMap fun
    | .addIceCandidate init => some init
    | _ => none

/-- The ways handling a signal can go, for the peer connection and the buffer. -/
inductive Handled (prost : Prost) (signal : WebRtcSignal) (s s' : WebRtcSession) : Prop where
  /-- The signal is ignored, it does not decode, or its offer does not parse. -/
  | unchanged : candidate? prost signal = none → s' = s → Handled prost signal s s'
  | rejected (sdp e : String) : candidate? prost signal = none →
      s' = s.setRemoteDescription sdp (.error e) → Handled prost signal s s'
  /-- An offer is taken; the calls made for its answer come after the drain. -/
  | accepted (sdp : String) (more : List PcCall) : candidate? prost signal = none →
      s'.calls = (s.setRemoteDescription sdp (.ok ())).drain.calls ++ more →
      (∀ call ∈ more, call = .createAnswer ∨ ∃ sdp, call = .setLocalDescription sdp) →
      s'.pendingIce = [] → s'.remoteDescription = some sdp → Handled prost signal s s'
  | buffered (init : RTCIceCandidateInit) : candidate? prost signal = some init →
      s.remoteDescription = none → s' = { s with pendingIce := s.pendingIce ++ [init] } →
      Handled prost signal s s'
  | added (init : RTCIceCandidateInit) : candidate? prost signal = some init →
      s.remoteDescription.isSome → s' = { s with calls := s.calls ++ [.addIceCandidate init] } →
      Handled prost signal s s'

namespace WebRtcSession

variable {prost : Prost} {s : WebRtcSession} {signal : WebRtcSignal} {r : PcResults}

/-- Answering neither sets a remote description nor adds a candidate. -/
theorem answer_calls (prost : Prost) (r : PcResults) (s : WebRtcSession) (mid : String) :
    ∃ more, (s.answer prost r mid).1.calls = s.calls ++ more ∧
      (∀ call ∈ more, call = .createAnswer ∨ ∃ sdp, call = .setLocalDescription sdp) ∧
      (s.answer prost r mid).1.pendingIce = s.pendingIce ∧
      (s.answer prost r mid).1.remoteDescription = s.remoteDescription := by
  unfold answer
  cases r.createAnswer with
  | error e => exact ⟨[.createAnswer], rfl, by simp, rfl, rfl⟩
  | ok sdp =>
    have hcalls : s.calls ++ [.createAnswer] ++ [.setLocalDescription sdp] =
        s.calls ++ [.createAnswer, .setLocalDescription sdp] := by simp
    have hmore : ∀ call ∈ [PcCall.createAnswer, .setLocalDescription sdp],
        call = .createAnswer ∨ ∃ sdp, call = .setLocalDescription sdp := by simp
    refine ⟨[.createAnswer, .setLocalDescription sdp], ?_, hmore, ?_⟩
    · cases r.setLocalDescription with
      | error e => exact hcalls
      | ok => cases r.send <;> exact hcalls
    · cases r.setLocalDescription with
      | error e => exact ⟨rfl, rfl⟩
      | ok => cases r.send <;> exact ⟨rfl, rfl⟩

theorem handleSignal_handled (prost : Prost) (s : WebRtcSession) (signal : WebRtcSignal) (r : PcResults) :
    Handled prost signal s (s.handleSignal prost signal r).1 := by
  unfold handleSignal
  by_cases hoffer : signal.msgType = 3
  · have hnone : candidate? prost signal = none := by simp [candidate?, hoffer]
    rw [if_pos hoffer]
    unfold handleOffer
    cases prost.decodeSdpBody signal.body with
    | error e => exact .unchanged hnone rfl
    | ok body =>
      cases r.offer with
      | error e => exact .unchanged hnone rfl
      | ok =>
        cases r.setRemoteDescription with
        | error e => exact .rejected body.sdp e hnone rfl
        | ok =>
          obtain ⟨more, hcalls, hmore, hpending, hremote⟩ :=
            answer_calls prost r (s.setRemoteDescription body.sdp (.ok ())).drain body.mid
          exact .accepted body.sdp more hnone hcalls hmore hpending hremote
  rw [if_neg hoffer]
  by_cases hcandidate : signal.msgType = 4
  · rw [if_pos hcandidate]
    unfold handleCandidate
    cases hbody : prost.decodeIceCandidateBody signal.body with
    | error e => exact .unchanged (by simp [candidate?, hcandidate, hbody]) rfl
    | ok body =>
      have hsome : candidate? prost signal = some (candidateInit body) := by
        simp [candidate?, hcandidate, hbody]
      by_cases hremote : s.remoteDescription.isSome = true
      · simp only [if_pos hremote]
        exact .added (candidateInit body) hsome hremote rfl
      · simp only [if_neg hremote]
        exact .buffered (candidateInit body) hsome (by simpa using hremote) rfl
  · rw [if_neg hcandidate]
    exact .unchanged (by simp [candidate?, hcandidate]) rfl

end WebRtcSession

/-- What the driver keeps of a session. -/
def Driver.Matches (d : Driver) (s : WebRtcSession) : Prop :=
  d.remoteDescription = s.remoteDescription.isSome ∧ d.pendingIce = s.pendingIce.map (·.candidate)

/-- A driver that takes a signal up can do with its buffer what the session does. -/
theorem Handled.exists_path {prost : Prost} {signal : WebRtcSignal} {s s' : WebRtcSession}
    (h : Handled prost signal s s') {d : Driver} (hpc : d.pc = .selecting) (hd : d.Matches s) :
    ∃ as d', Transition.Path driverSystem d as d' ∧ d'.Matches s' := by
  obtain ⟨hremote, hpending⟩ := hd
  cases h with
  | unchanged _ heq => exact ⟨[], d, .nil d, heq ▸ ⟨hremote, hpending⟩⟩
  | rejected sdp e _ heq => exact ⟨[], d, .nil d, heq ▸ ⟨hremote, hpending⟩⟩
  | accepted sdp more _ _ _ hempty hset =>
    have hoffer : driverSystem.step d (.event (.offer "")) = some { d with pc := .settingRemote "" } :=
      if_pos hpc
    refine ⟨[.event (.offer ""), .remoteSet], _, .snoc (.snoc (.nil d) trivial hoffer) trivial rfl, ?_⟩
    exact ⟨by simp [hset], by simp [hempty]⟩
  | buffered init _ hnone heq =>
    have hevent : driverSystem.step d (.event (.iceCandidate init.candidate)) =
        some { d with pc := .addingIce init.candidate } := if_pos hpc
    have hdescribed : d.remoteDescription = false := by simp [hremote, hnone]
    refine ⟨[.event (.iceCandidate init.candidate), .iceHandled], _,
      .snoc (.snoc (.nil d) trivial hevent) trivial rfl, ?_⟩
    exact heq ▸ ⟨hremote, by simp [hdescribed, hpending]⟩
  | added init _ hsome heq =>
    have hevent : driverSystem.step d (.event (.iceCandidate init.candidate)) =
        some { d with pc := .addingIce init.candidate } := if_pos hpc
    have hdescribed : d.remoteDescription = true := by simp [hremote, hsome]
    refine ⟨[.event (.iceCandidate init.candidate), .iceHandled], _,
      .snoc (.snoc (.nil d) trivial hevent) trivial rfl, ?_⟩
    exact heq ▸ ⟨hremote, by simp [hdescribed, hpending]⟩

/-! ## Sequences of signals -/

/-- A call to add a candidate comes after an offer that was set. -/
def AfterRemoteDescription (pre : List PcCall) (call : PcCall) : Prop :=
  ∀ init, call = .addIceCandidate init → ∃ sdp, .setRemoteDescription sdp (.ok ()) ∈ pre

/-- A session after signals with the candidates `received`. -/
structure WebRtcSession.Inv (received : List RTCIceCandidateInit) (s : WebRtcSession) : Prop where
  conserved : submitted s.calls ++ s.pendingIce = received
  buffered : s.remoteDescription = none → submitted s.calls = []
  drained : s.remoteDescription.isSome → s.pendingIce = []
  described : s.remoteDescription.isSome ↔ ∃ sdp, .setRemoteDescription sdp (.ok ()) ∈ s.calls
  ordered : Transition.OnLog AfterRemoteDescription s.calls

@[simp] theorem submitted_append (calls more : List PcCall) :
    submitted (calls ++ more) = submitted calls ++ submitted more :=
  List.filterMap_append

@[simp] theorem submitted_addIceCandidate (inits : List RTCIceCandidateInit) :
    submitted (inits.map .addIceCandidate) = inits := by
  simp [submitted, List.filterMap_map]

theorem submitted_eq_nil {calls : List PcCall} (h : ∀ call ∈ calls, ∀ init, call ≠ .addIceCandidate init) :
    submitted calls = [] := by
  unfold submitted
  rw [List.filterMap_eq_nil_iff]
  intro call hcall
  cases call with
  | addIceCandidate init => exact absurd rfl (h _ hcall init)
  | _ => rfl

theorem AfterRemoteDescription.of_ne {call : PcCall} (h : ∀ init, call ≠ .addIceCandidate init)
    (pre : List PcCall) : AfterRemoteDescription pre call :=
  fun init hcall => absurd hcall (h init)

namespace WebRtcSession.Inv

variable {prost : Prost} {received : List RTCIceCandidateInit} {s s' : WebRtcSession}

theorem new (cameraToken sessionId : String) : (WebRtcSession.new cameraToken sessionId).Inv [] where
  conserved := rfl
  buffered _ := rfl
  drained := by simp [WebRtcSession.new]
  described := by simp [WebRtcSession.new]
  ordered := .nil

theorem step (h : s.Inv received) {signal : WebRtcSignal} (hs : Handled prost signal s s') :
    s'.Inv (received ++ (candidate? prost signal).toList) := by
  cases hs with
  | unchanged hnone heq =>
    rw [hnone, heq]
    simpa using h
  | rejected sdp e hnone heq =>
    have hcall : ∀ init, PcCall.setRemoteDescription sdp (.error e) ≠ .addIceCandidate init := by simp
    have hsame : submitted s'.calls = submitted s.calls := by
      simp [heq, setRemoteDescription, submitted_eq_nil]
    rw [hnone, Option.toList_none, List.append_nil]
    refine ⟨?_, ?_, ?_, ?_, ?_⟩
    · rw [hsame, heq]
      exact h.conserved
    · rw [hsame, heq]
      exact h.buffered
    · rw [heq]
      exact h.drained
    · simpa [heq, setRemoteDescription] using h.described
    · rw [heq]
      exact h.ordered.snoc (.of_ne hcall s.calls)
  | accepted sdp more hnone hcalls hmore hpending hremote =>
    have hnot : ∀ call ∈ more, ∀ init, call ≠ .addIceCandidate init := by
      intro call hcall init
      rcases hmore call hcall with rfl | ⟨answer, rfl⟩ <;> simp
    have hset : ∀ init, PcCall.setRemoteDescription sdp (.ok ()) ≠ .addIceCandidate init := by simp
    have hsubmitted : submitted s'.calls = received := by
      have hparts : s'.calls = s.calls ++ [.setRemoteDescription sdp (.ok ())] ++
        s.pendingIce.map .addIceCandidate ++ more := hcalls
      have hone : submitted [.setRemoteDescription sdp (.ok ())] = [] := rfl
      rw [hparts, submitted_append, submitted_append, submitted_append, submitted_addIceCandidate, hone,
        submitted_eq_nil hnot, List.append_nil, List.append_nil, h.conserved]
    rw [hnone, Option.toList_none, List.append_nil]
    refine ⟨by rw [hsubmitted, hpending, List.append_nil], by simp [hremote], fun _ => hpending, ?_, ?_⟩
    · have hmem : PcCall.setRemoteDescription sdp (.ok ()) ∈ s'.calls := by
        rw [hcalls]
        simp [drain, setRemoteDescription]
      exact ⟨fun _ => ⟨sdp, hmem⟩, fun _ => by simp [hremote]⟩
    · -- the drained candidates come right after the offer
      have hfirst := h.ordered.snoc (.of_ne hset s.calls)
      have hdrained : Transition.OnLog AfterRemoteDescription
          (s.setRemoteDescription sdp (.ok ())).drain.calls :=
        hfirst.append fun call _ mid init _ => ⟨sdp, by simp⟩
      rw [hcalls]
      exact hdrained.append fun call hcall mid => .of_ne (hnot call hcall) _
  | buffered init hsome hremote heq =>
    rw [hsome, heq]
    refine ⟨?_, h.buffered, by simp [hremote], h.described, h.ordered⟩
    rw [← h.conserved]
    simp
  | added init hsome hremote heq =>
    obtain ⟨sdp, hsdp⟩ := h.described.mp hremote
    have hempty := h.drained hremote
    have hall : submitted s.calls = received := by
      rw [← h.conserved, hempty, List.append_nil]
    rw [hsome, heq]
    refine ⟨?_, ?_, fun _ => hempty, ?_, ?_⟩
    · have hone : submitted [.addIceCandidate init] = [init] := rfl
      simp [hall, hempty, hone]
    · intro hnone
      simp only at hnone
      rw [hnone] at hremote
      cases hremote
    · simpa using h.described
    · exact h.ordered.snoc fun _ _ => ⟨sdp, hsdp⟩

theorem run (h : s.Inv received) (inputs : List (WebRtcSignal × PcResults)) :
    (s.run prost inputs).Inv (received ++ inputs.filterMap fun input => candidate? prost input.1) := by
  induction inputs generalizing s received with
  | nil => simpa [WebRtcSession.run] using h
  | cons input rest ih =>
    have hnext := h.step (s.handleSignal_handled prost input.1 input.2)
    have hrest := ih hnext
    have hreceived : received ++ (candidate? prost input.1).toList ++
          rest.filterMap (fun input => candidate? prost input.1) =
        received ++ (input :: rest).filterMap fun input => candidate? prost input.1 := by
      cases hcandidate : candidate? prost input.1 <;> simp [hcandidate]
    exact hreceived ▸ hrest

end WebRtcSession.Inv

/-- An offer that the peer connection accepts is set, and the buffered candidates are added right
behind it. -/
theorem WebRtcSession.handleSignal_offer {prost : Prost} {s : WebRtcSession} {signal : WebRtcSignal}
    {r : PcResults} {body : SdpBody} (htype : signal.msgType = 3)
    (hbody : prost.decodeSdpBody signal.body = .ok body) (hoffer : r.offer = .ok ())
    (hset : r.setRemoteDescription = .ok ()) :
    (s.handleSignal prost signal r).1.remoteDescription = some body.sdp ∧
      ∃ more, (s.handleSignal prost signal r).1.calls = s.calls ++
        .setRemoteDescription body.sdp (.ok ()) :: (s.pendingIce.map .addIceCandidate ++ more) := by
  have hhandled : s.handleSignal prost signal r =
      (s.setRemoteDescription body.sdp (.ok ())).drain.answer prost r body.mid := by
    simp only [handleSignal, if_pos htype, handleOffer, hbody, hoffer, hset]
  obtain ⟨more, hcalls, -, -, hremote⟩ :=
    answer_calls prost r (s.setRemoteDescription body.sdp (.ok ())).drain body.mid
  rw [hhandled]
  refine ⟨hremote, more, ?_⟩
  rw [hcalls]
  simp [drain, setRemoteDescription]

/-- So it ends the buffering: all candidates that came before it have been submitted when it is
handled. -/
theorem WebRtcSession.run_offer {prost : Prost} {signal : WebRtcSignal} {r : PcResults} {body : SdpBody}
    (htype : signal.msgType = 3) (hbody : prost.decodeSdpBody signal.body = .ok body)
    (hoffer : r.offer = .ok ()) (hset : r.setRemoteDescription = .ok ()) (cameraToken sessionId : String)
    (inputs : List (WebRtcSignal × PcResults)) :
    let s := (WebRtcSession.new cameraToken sessionId).run prost (inputs ++ [(signal, r)])
    .setRemoteDescription body.sdp (.ok ()) ∈ s.calls ∧
      submitted s.calls = (inputs.filterMap fun input => candidate? prost input.1) ∧
      s.pendingIce = [] := by
  intro s
  have hstep : s = (((WebRtcSession.new cameraToken sessionId).run prost inputs).handleSignal prost
      signal r).1 := by
    simp [s, run]
  obtain ⟨hremote, more, hcalls⟩ := handleSignal_offer htype hbody hoffer hset
    (s := (WebRtcSession.new cameraToken sessionId).run prost inputs)
  rw [← hstep] at hremote hcalls
  have hinv : s.Inv ([] ++ (inputs ++ [(signal, r)]).filterMap fun input => candidate? prost input.1) :=
    (Inv.new cameraToken sessionId).run _
  have hdrained : s.pendingIce = [] := hinv.drained (by rw [hremote]; rfl)
  have hnone : candidate? prost signal = none := by simp [candidate?, htype]
  have hall : submitted s.calls ++ s.pendingIce = _ := hinv.conserved
  refine ⟨?_, ?_, hdrained⟩
  · rw [hcalls]
    simp
  · simpa [hdrained, hnone] using hall

/-- Whatever signals have been handled: no candidate is added before an offer was set; once one is set,
every candidate that came has been submitted, in the order they came; until then all of them are in the
buffer. -/
theorem handleSignal_submits (prost : Prost) (cameraToken sessionId : String)
    (inputs : List (WebRtcSignal × PcResults)) :
    let s := (WebRtcSession.new cameraToken sessionId).run prost inputs
    let received := inputs.filterMap fun input => candidate? prost input.1
    Transition.OnLog AfterRemoteDescription s.calls ∧
      ((∃ sdp, .setRemoteDescription sdp (.ok ()) ∈ s.calls) →
        submitted s.calls = received ∧ s.pendingIce = []) ∧
      ((¬ ∃ sdp, .setRemoteDescription sdp (.ok ()) ∈ s.calls) →
        submitted s.calls = [] ∧ s.pendingIce = received) := by
  intro s received
  have hinv : s.Inv received := by
    simpa using (WebRtcSession.Inv.new cameraToken sessionId).run inputs
  refine ⟨hinv.ordered, ?_, ?_⟩
  · intro hset
    have hdrained := hinv.drained (hinv.described.mpr hset)
    have hall := hinv.conserved
    rw [hdrained, List.append_nil] at hall
    exact ⟨hall, hdrained⟩
  · intro hset
    have hnone : s.remoteDescription = none := by
      rw [← Option.not_isSome_iff_eq_none]
      exact fun h => hset (hinv.described.mp h)
    have hempty := hinv.buffered hnone
    have hall := hinv.conserved
    rw [hempty, List.nil_append] at hall
    exact ⟨hempty, hall⟩

end Buddy3dProxy.WebRtc
