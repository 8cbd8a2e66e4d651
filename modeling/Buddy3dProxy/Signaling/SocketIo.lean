import Buddy3dProxy.Rust.Text

/-!
# Socket.IO packets

The packet parser, the encoders and the binary-attachment correlator of
`prusa/signaling/socketio.rs`. Printing and parsing JSON is the business of `serde_json`, whose
functions are parameters.
-/

namespace Buddy3dProxy.SocketIo

/-- A JSON value. Of the numbers only the unsigned ones are told apart. -/
inductive Json where
  | null
  | bool (b : Bool)
  | nat (n : UInt64)
  | otherNumber (text : String)
  | str (s : String)
  | arr (elements : List Json)
  | obj (fields : List (String × Json))
  deriving Repr

namespace Json

def get (v : Json) (key : String) : Option Json :=
  match v with
  | obj fields => fields.lookup key
  | _ => none

def asBool : Json → Option Bool
  | bool b => some b
  | _ => none

def asU64 : Json → Option UInt64
  | nat n => some n
  | _ => none

def asStr : Json → Option String
  | str s => some s
  | _ => none

end Json

/-- What the code uses of `serde_json`. -/
structure Serde where
  /-- `Display` of a value. -/
  valueToString : Json → String
  /-- `from_str::<Value>`. -/
  valueFromStr : String → Except String Json
  /-- `to_string(&Vec<Value>)`. -/
  vecToString : List Json → String
  /-- `from_str::<Vec<Value>>`. -/
  vecFromStr : String → Except String (List Json)

inductive TextPacket where
  | connect (auth : Option Json)
  | disconnect
  | event (id : Option UInt64) (name : String) (args : List Json)
  | ack (id : UInt64) (args : List Json)
  | binaryEventHeader (attachmentCount : UInt32) (id : Option UInt64) (name : String)
      (placeholders : List UInt32)
  deriving Repr

inductive ParseError where
  | empty
  | unknownType (c : Char)
  | badJson (e : String)
  | badBinaryHeader (text : String)
  | missingEventName
  deriving DecidableEq, Repr

/-- An id in front of a body, if there is one. -/
def splitOptionalId (s : List Char) : Option UInt64 × List Char :=
  if s.takeWhile Char.isDigit = [] then (none, s)
  else
    ((Rust.parseUnsigned 18446744073709551616 (s.takeWhile Char.isDigit)).map UInt64.ofNat,
      s.dropWhile Char.isDigit)

/-- The number of a placeholder object. -/
def placeholderNum (v : Json) : Option UInt32 :=
  match (v.get "_placeholder").bind Json.asBool with
  | some true => ((v.get "num").bind Json.asU64).map UInt64.toUInt32
  | _ => none

/-- The name at the head of the arguments, and the rest of them. -/
def eventName : List Json → Except ParseError (String × List Json)
  | .str name :: rest => .ok (name, rest)
  | _ => .error .missingEventName

section Parse

variable (serde : Serde)

/-- `from_str::<Vec<Value>>(body)` with its error mapped. -/
def parseArgs (body : List Char) : Except ParseError (List Json) :=
  match serde.vecFromStr (String.ofList body) with
  | .ok args => .ok args
  | .error e => .error (.badJson e)

/-- The part of a binary-event header after its type digit. -/
def parseBinaryHeader (rest : List Char) : Except ParseError TextPacket := do
  let some (count, afterDash) := Rust.splitOnce '-' rest
    | .error (.badBinaryHeader ("missing dash in: " ++ String.ofList rest))
  let some n := Rust.parseUnsigned 4294967296 count
    | .error (.badBinaryHeader ("non-numeric attachment count: " ++ String.ofList count))
  let args ← parseArgs serde (splitOptionalId afterDash).2
  let (name, rest) ← eventName args
  return .binaryEventHeader (UInt32.ofNat n) (splitOptionalId afterDash).1 name
    (rest.filterMap placeholderNum)

def parseText (frame : String) : Except ParseError TextPacket :=
  match frame.toList with
  | [] => .error .empty
  | kind :: rest =>
    match kind with
    | '0' =>
      if rest = [] then .ok (.connect none)
      else
        match serde.valueFromStr (String.ofList rest) with
        | .ok auth => .ok (.connect (some auth))
        | .error e => .error (.badJson e)
    | '1' => .ok .disconnect
    | '2' => do
      let args ← parseArgs serde (splitOptionalId rest).2
      let (name, args) ← eventName args
      return .event (splitOptionalId rest).1 name args
    | '3' => do
      let some id := (splitOptionalId rest).1 | .error (.badBinaryHeader "ack without id")
      let args ← parseArgs serde (splitOptionalId rest).2
      return .ack id args
    | '5' => parseBinaryHeader serde rest
    | other => .error (.unknownType other)

def encodeConnect (auth : Json) : String := "0" ++ serde.valueToString auth

/-- The arguments of a binary event: its name and a placeholder for each attachment. -/
def binaryEventArgs (name : String) (attachmentCount : Nat) : List Json :=
  .str name :: (List.range attachmentCount).map fun i =>
    .obj [("_placeholder", .bool true), ("num", .nat (UInt64.ofNat i))]

def encodeBinaryEvent (name : String) (attachmentCount : UInt32) (ackId : Option UInt64) : String :=
  let body := serde.vecToString (binaryEventArgs name attachmentCount.toNat)
  match ackId with
  | some id => "5" ++ toString attachmentCount ++ "-" ++ toString id ++ body
  | none => "5" ++ toString attachmentCount ++ "-" ++ body

end Parse

/-! ## The correlator -/

structure PendingBinaryEvent where
  name : String
  expected : UInt32
  /-- The attachments so far: the one with key `i` of the source's map is at position `i`. -/
  received : List (List UInt8)
  deriving DecidableEq, Repr

structure Correlator where
  pending : Option PendingBinaryEvent
  deriving DecidableEq, Repr

inductive Event where
  | text (name : String) (args : List Json)
  | binary (name : String) (attachments : List (List UInt8))
  | connected (auth : Option Json)
  | disconnected
  | ack (id : UInt64) (args : List Json)
  deriving Repr

inductive CorrelatorError where
  | parse (e : ParseError)
  | unexpectedBinary
  | interleavedText (received expected : UInt32)
  | tooManyBinaries (n expected : UInt32)
  deriving DecidableEq, Repr

namespace Correlator

def new : Correlator := ⟨none⟩

def feedText (serde : Serde) (c : Correlator) (frame : String) :
    Except CorrelatorError (Correlator × Option Event) :=
  match c.pending with
  | some p => .error (.interleavedText (UInt32.ofNat p.received.length) p.expected)
  | none =>
    match parseText serde frame with
    | .error e => .error (.parse e)
    | .ok (.connect auth) => .ok (c, some (.connected auth))
    | .ok .disconnect => .ok (c, some .disconnected)
    | .ok (.event _ name args) => .ok (c, some (.text name args))
    | .ok (.ack id args) => .ok (c, some (.ack id args))
    | .ok (.binaryEventHeader attachmentCount _ name _) =>
      if attachmentCount = 0 then .ok (c, some (.binary name []))
      else .ok (⟨some ⟨name, attachmentCount, []⟩⟩, none)

def feedBinary (c : Correlator) (payload : List UInt8) :
    Except CorrelatorError (Correlator × Option Event) :=
  match c.pending with
  | none => .error .unexpectedBinary
  | some p =>
    let nextNum := UInt32.ofNat p.received.length
    if p.expected ≤ nextNum then .error (.tooManyBinaries (nextNum + 1) p.expected)
    else
      let received := p.received ++ [payload]
      if UInt32.ofNat received.length = p.expected then .ok (⟨none⟩, some (.binary p.name received))
      else .ok (⟨some { p with received }⟩, none)

end Correlator

end Buddy3dProxy.SocketIo
