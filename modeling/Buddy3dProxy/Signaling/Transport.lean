import Buddy3dProxy.Signaling.EngineIo
import Buddy3dProxy.Signaling.SocketIo

/-!
# The signaling transport

The encoding half of the driver in `prusa/signaling/client.rs`, and what a peer that runs the same
parsers reads from its frames.
-/

namespace Buddy3dProxy.Signaling

open SocketIo (Json Serde Correlator Event)

/-- Outbound events the caller can submit. -/
inductive Outbound where
  | connect (auth : Json)
  | binaryEvent (name : String) (payload : List UInt8) (expectAck : Bool)

/-- A WebSocket message. -/
inductive Frame where
  | text (t : String)
  | binary (b : List UInt8)
  deriving DecidableEq, Repr

section Encode

variable (serde : Serde)

/-- The frames of one submission and the next ack id. The counter is a `u64`. -/
def encodeOutbound (nextAckId : UInt64) : Outbound → List Frame × UInt64
  | .connect auth =>
    ([.text (EngineIo.encodeMessage (SocketIo.encodeConnect serde auth))], nextAckId)
  | .binaryEvent name payload expectAck =>
    let ackId := if expectAck then some nextAckId else none
    ([.text (EngineIo.encodeMessage (SocketIo.encodeBinaryEvent serde name 1 ackId)),
        .binary payload],
      if expectAck then nextAckId + 1 else nextAckId)

/-- The frames of the submissions a driver handles in order. -/
def encodeAll (nextAckId : UInt64) : List Outbound → List Frame
  | [] => []
  | out :: rest =>
    (encodeOutbound serde nextAckId out).1 ++ encodeAll (encodeOutbound serde nextAckId out).2 rest

end Encode

/-! ## The peer -/

/-- What the peer has read: the ack ids of the binary-event headers and the events, in order. -/
structure Decoded where
  headerIds : List (Option UInt64)
  events : List Event

section Decode

variable (openFromStr : String → Except String EngineIo.OpenPayload) (serde : Serde)

/-- The ack id of a binary-event header. -/
def headerId (payload : String) : List (Option UInt64) :=
  match SocketIo.parseText serde payload with
  | .ok (.binaryEventHeader _ id _ _) => [id]
  | _ => []

/-- Read frames in order; `none` when one of them is an error. -/
def decodeAll (c : Correlator) : List Frame → Option Decoded
  | [] => if c.pending = none then some ⟨[], []⟩ else none
  | .text t :: rest =>
    match EngineIo.parseText openFromStr t with
    | .ok (.message payload) =>
      match c.feedText serde payload with
      | .ok (c, event) =>
        (decodeAll c rest).map fun d =>
          ⟨headerId serde payload ++ d.headerIds, event.toList ++ d.events⟩
      | .error _ => none
    | .ok _ => decodeAll c rest
    | .error _ => none
  | .binary b :: rest =>
    match c.feedBinary b with
    | .ok (c, event) => (decodeAll c rest).map fun d => ⟨d.headerIds, event.toList ++ d.events⟩
    | .error _ => none

end Decode

/-- A ping, pong or noop. -/
def Frame.isControl : Frame → Bool
  | .text t => EngineIo.isControl t
  | .binary _ => false

/-- A binary event to submit. -/
structure Submission where
  name : String
  payload : List UInt8
  expectAck : Bool
  deriving DecidableEq, Repr

def Submission.outbound (s : Submission) : Outbound := .binaryEvent s.name s.payload s.expectAck

/-- The ack ids of the headers of submissions: the `k`-th one that expects an ack, counted from
`k₀`, has id `k`, and the others have none. -/
def ackIds (k₀ : Nat) : List Submission → List (Option UInt64)
  | [] => []
  | s :: rest =>
    if s.expectAck then some (UInt64.ofNat k₀) :: ackIds (k₀ + 1) rest else none :: ackIds k₀ rest

/-- Parsing inverts printing on the arguments of an event of this name, which are printed as an
array. -/
structure Inverts (serde : Serde) (name : String) : Prop where
  vecFromStr : serde.vecFromStr (serde.vecToString (SocketIo.binaryEventArgs name 1)) =
    .ok (SocketIo.binaryEventArgs name 1)
  bracket : (serde.vecToString (SocketIo.binaryEventArgs name 1)).toList.head? = some '['

/-! ## Round trip -/

section RoundTrip

variable {openFromStr : String → Except String EngineIo.OpenPayload} {serde : Serde}

theorem splitOptionalId_none {body : List Char} (h : body.head? = some '[') :
    SocketIo.splitOptionalId body = (none, body) := by
  obtain ⟨rest, rfl⟩ := List.head?_eq_some_iff.mp h
  simp [SocketIo.splitOptionalId]

theorem splitOptionalId_some (id : UInt64) {body : List Char} (h : body.head? = some '[') :
    SocketIo.splitOptionalId ((toString id).toList ++ body) = (some id, body) := by
  have htext : (toString id).toList = Nat.toDigits 10 id.toNat := by simp [toString]
  have hdigits : ∀ c ∈ Nat.toDigits 10 id.toNat, c.isDigit = true := fun c hc =>
    Rust.isDigit_of_mem_toDigits hc
  have htail : body.takeWhile Char.isDigit = [] ∧ body.dropWhile Char.isDigit = body := by
    obtain ⟨rest, rfl⟩ := List.head?_eq_some_iff.mp h
    simp
  rw [htext]
  unfold SocketIo.splitOptionalId
  rw [List.takeWhile_append_of_pos hdigits, List.dropWhile_append_of_pos hdigits, htail.1, htail.2,
    List.append_nil, if_neg Nat.toDigits_ne_nil, Rust.parseUnsigned_toDigits id.toNat_lt]
  simp

/-- The header of an event is read back: one attachment, the ack id and the name. -/
theorem parseText_encodeBinaryEvent {name : String} (h : Inverts serde name)
    (ackId : Option UInt64) :
    SocketIo.parseText serde (SocketIo.encodeBinaryEvent serde name 1 ackId) =
      .ok (.binaryEventHeader 1 ackId name [0]) := by
  have hbody : ∀ afterDash, SocketIo.splitOptionalId afterDash =
      (ackId, (serde.vecToString (SocketIo.binaryEventArgs name 1)).toList) →
      SocketIo.parseBinaryHeader serde ('1' :: '-' :: afterDash) =
        .ok (.binaryEventHeader 1 ackId name [0]) := by
    intro afterDash hsplit
    have hargs : SocketIo.parseArgs serde
        (serde.vecToString (SocketIo.binaryEventArgs name 1)).toList =
          .ok (SocketIo.binaryEventArgs name 1) := by
      simp [SocketIo.parseArgs, h.vecFromStr]
    have hone : Rust.parseUnsigned 4294967296 ['1'] = some 1 := by decide
    have hdash : Rust.splitOnce '-' ('1' :: '-' :: afterDash) = some (['1'], afterDash) := by
      simp [Rust.splitOnce]
    simp only [SocketIo.parseBinaryHeader, hdash, hone, hsplit, hargs]
    rfl
  have hcount : toString (1 : UInt32) = "1" := by decide
  cases ackId with
  | none =>
    have hsplit := splitOptionalId_none h.bracket
    simpa [SocketIo.encodeBinaryEvent, SocketIo.parseText, hcount] using hbody _ hsplit
  | some id =>
    have hsplit := splitOptionalId_some id h.bracket
    simpa [SocketIo.encodeBinaryEvent, SocketIo.parseText, hcount] using hbody _ hsplit

/-- Heartbeat and noop frames change nothing, wherever they stand. -/
theorem decodeAll_filter (c : Correlator) (wire : List Frame) :
    decodeAll openFromStr serde c (wire.filter (!·.isControl)) =
      decodeAll openFromStr serde c wire := by
  induction wire generalizing c with
  | nil => rfl
  | cons frame rest ih =>
    cases frame with
    | text t =>
      by_cases hc : (Frame.text t).isControl = true
      · rcases EngineIo.parseText_of_isControl openFromStr hc with h | h | h <;>
          simp [hc, decodeAll, h, ih]
      · simp [hc, decodeAll, ih]
    | binary b =>
      have hc : (Frame.binary b).isControl = false := rfl
      simp [hc, decodeAll, ih]

/-- The two frames of one event. -/
theorem decodeAll_event {name : String} (h : Inverts serde name) (payload : List UInt8)
    (ackId : Option UInt64) (rest : List Frame) :
    decodeAll openFromStr serde .new
        (.text (EngineIo.encodeMessage (SocketIo.encodeBinaryEvent serde name 1 ackId)) ::
          .binary payload :: rest) =
      (decodeAll openFromStr serde .new rest).map fun d =>
        ⟨ackId :: d.headerIds, .binary name [payload] :: d.events⟩ := by
  have hheader := parseText_encodeBinaryEvent h ackId
  have htext : Correlator.new.feedText serde (SocketIo.encodeBinaryEvent serde name 1 ackId) =
      .ok (⟨some ⟨name, 1, []⟩⟩, none) := by
    simp [Correlator.feedText, Correlator.new, hheader]
  have hbinary : (⟨some ⟨name, 1, []⟩⟩ : Correlator).feedBinary payload =
      .ok (.new, some (.binary name [payload])) := by
    simp [Correlator.feedBinary, Correlator.new]
  simp only [decodeAll, EngineIo.parseText_encodeMessage, htext, hbinary, headerId, hheader]
  simp [Function.comp_def]

theorem decodeAll_encodeAll (k : Nat) (subs : List Submission)
    (h : ∀ s ∈ subs, Inverts serde s.name) :
    decodeAll openFromStr serde .new
        (encodeAll serde (UInt64.ofNat k) (subs.map Submission.outbound)) =
      some ⟨ackIds k subs, subs.map fun s => .binary s.name [s.payload]⟩ := by
  induction subs generalizing k with
  | nil => simp [encodeAll, decodeAll, ackIds, Correlator.new]
  | cons s rest ih =>
    have hs := h s List.mem_cons_self
    have hrest := fun k => ih k fun t ht => h t (List.mem_cons_of_mem _ ht)
    have hnext : UInt64.ofNat k + 1 = UInt64.ofNat (k + 1) := by simp
    by_cases hack : s.expectAck = true
    · simp only [List.map_cons, encodeAll, Submission.outbound, encodeOutbound, hack, if_true,
        List.cons_append, List.nil_append, decodeAll_event hs, ackIds, hnext, hrest (k + 1),
        Option.map_some]
    · simp [encodeAll, encodeOutbound, Submission.outbound, hack, ackIds, decodeAll_event hs, hrest]

end RoundTrip

/-- Whatever events a driver is given, and whatever heartbeat and noop frames stand between its
frames, the peer reads exactly those events in order, each with its own payload, and only the headers
of the events that expect an ack carry an id: the number of such events before. -/
theorem decodeAll_wire (openFromStr : String → Except String EngineIo.OpenPayload) (serde : Serde)
    (subs : List Submission) (h : ∀ s ∈ subs, Inverts serde s.name) (wire : List Frame)
    (hwire : wire.filter (!·.isControl) = encodeAll serde 0 (subs.map Submission.outbound)) :
    decodeAll openFromStr serde .new wire =
      some ⟨ackIds 0 subs, subs.map fun s => .binary s.name [s.payload]⟩ := by
  rw [← decodeAll_filter, hwire]
  exact decodeAll_encodeAll 0 subs h

namespace Sample

/-- The arguments of an event with one attachment, in the text of `serde_json`. -/
def args (name : String) : String := "[\"" ++ name ++ "\",\x7b\"_placeholder\":true,\"num\":0\x7d]"

/-- `serde_json` on the arguments of two events. -/
def serde : Serde where
  valueToString _ := "null"
  valueFromStr _ := .error "expected value"
  vecToString
    | [.str name, _] => args name
    | _ => "[]"
  vecFromStr s :=
    if s = args "client_authentication" then .ok (SocketIo.binaryEventArgs "client_authentication" 1)
    else if s = args "trigger" then .ok (SocketIo.binaryEventArgs "trigger" 1)
    else .error "expected value"

/-- Three events, with heartbeat frames between a header and its attachment. -/
def wire : List Frame :=
  [.text ("451-0" ++ args "client_authentication"), .text "2", .binary [7], .text "6",
    .text ("451-" ++ args "trigger"), .text "3probe", .text "2", .binary [],
    .text ("451-1" ++ args "trigger"), .binary [1, 2]]

end Sample

/-- An authentication, a trigger and a second event that expects an ack. -/
theorem decodeAll_wire_three :
    decodeAll (fun _ => .error "expected value") Sample.serde .new Sample.wire =
      some ⟨[some 0, none, some 1],
        [.binary "client_authentication" [[7]], .binary "trigger" [[]], .binary "trigger" [[1, 2]]]⟩ := by
  have hinv : ∀ name ∈ ["client_authentication", "trigger"], Inverts Sample.serde name := by
    intro name hname
    simp only [List.mem_cons, List.not_mem_nil, or_false] at hname
    rcases hname with rfl | rfl <;> exact ⟨rfl, by decide⟩
  have hsubs : ∀ s ∈ [⟨"client_authentication", [7], true⟩, ⟨"trigger", [], false⟩,
      (⟨"trigger", [1, 2], true⟩ : Submission)], Inverts Sample.serde s.name := by
    intro s hs
    simp only [List.mem_cons, List.not_mem_nil, or_false] at hs
    rcases hs with rfl | rfl | rfl <;> exact hinv _ (by simp)
  exact decodeAll_wire (fun _ => .error "expected value") Sample.serde _ hsubs Sample.wire (by decide)

end Buddy3dProxy.Signaling
