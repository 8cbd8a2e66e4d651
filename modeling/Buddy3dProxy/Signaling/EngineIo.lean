/-!
# Engine.IO packets

`prusa/signaling/engineio.rs`. Parsing JSON is the business of `serde_json`, whose functions are
parameters.
-/

namespace Buddy3dProxy.EngineIo

structure OpenPayload where
  sid : String
  upgrades : List String
  pingInterval : UInt64
  pingTimeout : UInt64
  maxPayload : UInt64
  deriving DecidableEq, Repr

/-- The text of a frame. -/
inductive TextPacket where
  | open (payload : OpenPayload)
  | close
  | ping
  | pong
  /-- A Socket.IO payload follows. -/
  | message (payload : String)
  | noop
  deriving DecidableEq, Repr

inductive ParseError where
  | empty
  | unknownType (c : Char)
  | badOpen (e : String)
  deriving DecidableEq, Repr

/-- `parse_text`, given the parser of the OPEN payload. -/
def parseText (openFromStr : String → Except String OpenPayload) (frame : String) :
    Except ParseError TextPacket :=
  match frame.toList with
  | [] => .error .empty
  | kind :: rest =>
    match kind with
    | '0' =>
      match openFromStr (String.ofList rest) with
      | .ok payload => .ok (.open payload)
      | .error e => .error (.badOpen e)
    | '1' => .ok .close
    | '2' => .ok .ping
    | '3' => .ok .pong
    | '4' => .ok (.message (String.ofList rest))
    | '6' => .ok .noop
    | other => .error (.unknownType other)

def encodePong : String := "3"

def encodeMessage (payload : String) : String := "4" ++ payload

theorem parseText_encodeMessage (openFromStr : String → Except String OpenPayload)
    (payload : String) :
    parseText openFromStr (encodeMessage payload) = .ok (.message payload) := by
  simp [parseText, encodeMessage]

/-- A frame of the heartbeat, or a noop. -/
def isControl (frame : String) : Bool :=
  frame.toList.head? = some '2' || frame.toList.head? = some '3' || frame.toList.head? = some '6'

theorem parseText_of_isControl (openFromStr : String → Except String OpenPayload) {frame : String}
    (h : isControl frame = true) :
    parseText openFromStr frame = .ok .ping ∨ parseText openFromStr frame = .ok .pong ∨
      parseText openFromStr frame = .ok .noop := by
  unfold isControl at h
  unfold parseText
  cases hf : frame.toList with
  | nil => simp [hf] at h
  | cons c rest =>
    simp only [hf, List.head?_cons, Option.some.injEq, Bool.or_eq_true, decide_eq_true_eq] at h
    rcases h with (rfl | rfl) | rfl <;> simp

@[simp] theorem isControl_encodePong : isControl encodePong = true := by decide

@[simp] theorem isControl_encodeMessage (payload : String) :
    isControl (encodeMessage payload) = false := by
  simp [isControl, encodeMessage]

end Buddy3dProxy.EngineIo
